import CertAuthority.Curve.Nist
import CertAuthority.Proofs.Primality.Certificate

/-!
# The primes of the supported curves

The sizes of the fields and the orders of the generators are prime.  The
certificates below lead from the primes below fifty to each of the eight
numbers.
-/

namespace CertAuthority.NistCurve

open Primality (Certificate)

/-- The primes below fifty. -/
def firstPrimes : List Nat :=
  [2, 3, 5, 7, 11, 13, 17, 19, 23, 29, 31, 37, 41, 43, 47]

/-- Certificates for the sizes of the fields and the orders of the generators. -/
def certificates : List Certificate :=
  [.predecessor 65537 3 [(2, 16)],
   .predecessor 26959946667150639794667015087019630673557916260026308143510066298881 11 [(2,
     96), (65537, 1)],
   .predecessor 10909 2 [(2, 2), (3, 3)],
   .predecessor 11105363 2 [(10909, 1)],
   .predecessor 821796863 2 [(11105363, 1)],
   .predecessor 432621809776543 2 [(821796863, 1)],
   .predecessor 136401162692544977256234449 2 [(432621809776543, 1)],
   .predecessor 34646440928557194402992574983797 2 [(136401162692544977256234449, 1)],
   .predecessor 375503554633724504423937478103159147573209 2
     [(34646440928557194402992574983797, 1)],
   .predecessor 50520606258875818707470860153287666700917696099933389351507 2
     [(375503554633724504423937478103159147573209, 1)],
   .predecessor 26959946667150639794667015087019625940457807714424391721682722368061 2
     [(50520606258875818707470860153287666700917696099933389351507, 1)],
   .predecessor 157 2 [(13, 1)],
   .predecessor 3769 2 [(157, 1)],
   .predecessor 204061199 2 [(23, 1), (3769, 1)],
   .predecessor 34282281433 2 [(204061199, 1)],
   .predecessor 757 2 [(2, 2), (3, 3)],
   .predecessor 18169 2 [(757, 1)],
   .predecessor 704251 2 [(3, 2), (5, 3)],
   .predecessor 46076956964474543 2 [(18169, 1), (704251, 1)],
   .predecessor 774023187263532362759620327192479577272145303 2 [(34282281433, 1),
     (46076956964474543, 1)],
   .predecessor 835945042244614951780389953367877943453916927241 2
     [(774023187263532362759620327192479577272145303, 1)],
   .predecessor 115792089210356248762697446949407573530086143415290314195533631308867097853951
     2 [(835945042244614951780389953367877943453916927241, 1)],
   .predecessor 337 5 [(2, 4), (7, 1)],
   .predecessor 104471 2 [(337, 1)],
   .predecessor 3969899 2 [(104471, 1)],
   .predecessor 1002328039319 2 [(3969899, 1)],
   .predecessor 155317 2 [(43, 2)],
   .predecessor 191039911 2 [(155317, 1)],
   .predecessor 208150935158385979 2 [(43, 1), (191039911, 1)],
   .predecessor 2624747550333869278416773953 2 [(208150935158385979, 1)],
   .predecessor 115792089210356248762697446949407573529996955224135760342422259061068512044369
     2 [(1002328039319, 1), (2624747550333869278416773953, 1)],
   .predecessor 233 2 [(29, 1)],
   .predecessor 8389 2 [(233, 1)],
   .predecessor 38557 2 [(3, 4), (17, 1)],
   .predecessor 59 2 [(29, 1)],
   .predecessor 599 2 [(13, 1), (23, 1)],
   .predecessor 513928823 2 [(59, 1), (599, 1)],
   .predecessor 53448597593 2 [(513928823, 1)],
   .predecessor 1357291859799823621 2 [(53448597593, 1)],
   .predecessor 21407 5 [(2, 1), (7, 1), (11, 1)],
   .predecessor 246608641 2 [(21407, 1)],
   .predecessor 529709925838459440593 3 [(2, 4), (7, 1), (246608641, 1)],
   .predecessor
     19173790298027098165721053155794528970226934547887232785722672956982046098136719667167519737147526097
     2 [(11, 3), (8389, 1), (38557, 1), (1357291859799823621, 1), (529709925838459440593, 1)],
   .predecessor
     39402006196394479212279040100143613805079739270465446667948293404245721771496870329047266088258938001861606973112319
     2
     [(19173790298027098165721053155794528970226934547887232785722672956982046098136719667167519737147526097,
     1)],
   .predecessor 251 3 [(5, 3)],
   .predecessor 73 2 [(3, 2)],
   .predecessor 272109983 2 [(73, 1), (233, 1)],
   .predecessor 228572385721 2 [(272109983, 1)],
   .predecessor 23314383343543 2 [(228572385721, 1)],
   .predecessor 426632512014427833817 2 [(23314383343543, 1)],
   .predecessor 1495199339761412565498084319 2 [(426632512014427833817, 1)],
   .predecessor 17942392077136950785977011829 2 [(1495199339761412565498084319, 1)],
   .predecessor 1059392654943455286185473617842338478315215895509773412096307 2 [(251, 1),
     (17942392077136950785977011829, 1)],
   .predecessor
     3055465788140352002733946906144561090641249606160407884365391979704929268480326390471 2
     [(1059392654943455286185473617842338478315215895509773412096307, 1)],
   .predecessor
     39402006196394479212279040100143613805079739270465446667946905279627659399113263569398956308152294913554433653942643
     2
     [(3055465788140352002733946906144561090641249606160407884365391979704929268480326390471,
     1)],
   .predecessor 858001 17 [(2, 4), (5, 3)],
   .predecessor 7623851 3 [(5, 2), (13, 1), (37, 1)],
   .predecessor 34110701 5 [(5, 2), (13, 1), (19, 1)],
   .predecessor 103 2 [(17, 1)],
   .predecessor 1237 2 [(103, 1)],
   .predecessor 49481 2 [(1237, 1)],
   .predecessor 308761441 3 [(49481, 1)],
   .predecessor 277 2 [(23, 1)],
   .predecessor 1663 2 [(277, 1)],
   .predecessor 2400573761 3 [(2, 6), (1663, 1)],
   .predecessor 113 3 [(2, 4)],
   .predecessor 227 2 [(113, 1)],
   .predecessor 23609 2 [(227, 1)],
   .predecessor 108140989558681 17 [(2, 3), (3, 2), (13, 1), (23609, 1)],
   .predecessor 9211861 2 [(2, 2), (3, 3), (5, 1), (7, 1)],
   .predecessor 24098228377 2 [(9211861, 1)],
   .predecessor 674750394557 2 [(24098228377, 1)],
   .predecessor 361725589517273017 2 [(674750394557, 1)],
   .predecessor 173308343918874810521923841 3 [(361725589517273017, 1)],
   .predecessor
     6864797660130609714981900799081393217269435300143305409394463459185543183397656052122559640661454554977296311391480858037121987999716643812574028291115057151
     3 [(858001, 1), (7623851, 1), (34110701, 1), (308761441, 1), (2400573761, 1),
     (108140989558681, 1), (173308343918874810521923841, 1)],
   .predecessor 89 2 [(11, 1)],
   .predecessor 3154339 2 [(3, 2), (11, 1), (89, 1)],
   .predecessor 12617357 2 [(3154339, 1)],
   .predecessor 929 3 [(2, 5)],
   .predecessor 118913 2 [(929, 1)],
   .predecessor 11923882163 2 [(118913, 1)],
   .predecessor 2742492897491 2 [(11923882163, 1)],
   .predecessor 1117814976287443177659483657095414003 2 [(12617357, 1), (2742492897491, 1)],
   .predecessor 9894712450279245035225391287211308533561263802001480744023 2
     [(1117814976287443177659483657095414003, 1)],
   .predecessor 2374730988067018808454093908930714048054703312480355378565521 2
     [(9894712450279245035225391287211308533561263802001480744023, 1)],
   .predecessor 51804625509771251553534546678595322522265033968214829542043448183730599 2
     [(2374730988067018808454093908930714048054703312480355378565521, 1)],
   .successor
     3636410625392624440351547907325502812950802686368714273274221490761556277859337865760708490235892541081304511
     9 51804625509771251553534546678595322522265033968214829542043448183730599,
   .predecessor
     3615194794881930010216942559103847593050265703173292383701371712350878926821661243755933835426896058418509759880171943
     2
     [(3636410625392624440351547907325502812950802686368714273274221490761556277859337865760708490235892541081304511,
     1)],
   .predecessor
     6864797660130609714981900799081393217269435300143305409394463459185543183397655394245057746333217197532963996371363321113864768612440380340372808892707005449
     2
     [(3615194794881930010216942559103847593050265703173292383701371712350878926821661243755933835426896058418509759880171943,
     1)]]

theorem firstPrimes_prime : ∀ value ∈ firstPrimes, value.Prime := by
  decide

theorem certificates_hold : Primality.allHold firstPrimes certificates = true := by
  decide +kernel

theorem prime_of_certificate {value : Nat}
    (certified : (certificates.map (·.value)).contains value = true) : value.Prime := by
  rcases List.mem_map.mp (List.contains_iff_mem.mp certified) with ⟨certificate, member, rfl⟩
  exact Primality.prime_of_allHold firstPrimes_prime certificates_hold certificate member

theorem params_prime (curve : NistCurve) :
    curve.params.field.Prime ∧ curve.params.order.Prime := by
  constructor <;> refine prime_of_certificate ?_ <;> cases curve <;> decide +kernel

instance (curve : NistCurve) : Fact curve.params.field.Prime := ⟨curve.params_prime.1⟩

instance (curve : NistCurve) : Fact curve.params.order.Prime := ⟨curve.params_prime.2⟩

end CertAuthority.NistCurve
