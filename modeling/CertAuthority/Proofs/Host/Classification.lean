import CertAuthority.Proofs.Host.AddressText
import CertAuthority.Proofs.Host.Email
import CertAuthority.Proofs.Host.Kinds

/-!
# Hosts that texts name

Every text names one host, and the hosts of texts are divided among the lists of
their kinds.  Since an address has a text of its own and a mailbox is found in
itself, the texts of hosts name the same hosts again, in every order that keeps
the order within each kind.

A colon is in every text of an address of version 6 and of an identifier, and an
at sign in every one with a mailbox.  A text without both is therefore a host
name as it stands, unless it is four decimal octets.
-/

namespace CertAuthority

/-! ## Identifiers -/

namespace Uri

theorem significantChars_subset (chars : List Char) : significantChars chars ⊆ chars := by
  intro char member
  have inTrimmed := List.mem_reverse.mp (List.mem_filter.mp member).1
  exact List.dropWhile_subset _ (List.mem_reverse.mp (List.dropWhile_subset _ inTrimmed))

theorem colon_mem_of_splitScheme? {chars : List Char} {split : String × List Char}
    (found : splitScheme? chars = some split) : ':' ∈ chars := by
  simp only [splitScheme?] at found
  split at found
  · rename_i rest behind
    exact List.mem_of_mem_drop (behind ▸ List.mem_cons_self)
  · cases found

/-- An identifier has the colon behind its scheme. -/
theorem colon_mem_of_isAbsolute {text : String} (absolute : isAbsolute text = true) :
    ':' ∈ text.toList := by
  cases found : splitScheme? (significantChars text.toList) with
  | none =>
      rw [isAbsolute, found] at absolute
      cases absolute
  | some split => exact significantChars_subset _ (colon_mem_of_splitScheme? found)

end Uri

namespace Host

/-! ## One host -/

/-- The text of a host. -/
def text : Host → String
  | .address found => found.toString
  | .email found => found
  | .uri found => found
  | .dns found => found

theorem ofText_address {text : String} {found : IpAddress}
    (read : IpAddress.parse? text = some found) : ofText text = .address found := by
  rw [ofText, read]

theorem ofText_email {text found : String} (noAddress : IpAddress.parse? text = none)
    (read : Email.parse? text = some found) : ofText text = .email found := by
  simp only [ofText, noAddress, read]

theorem ofText_other {text : String} (noAddress : IpAddress.parse? text = none)
    (noMailbox : Email.parse? text = none) :
    ofText text = if Uri.isAbsolute text then .uri text else .dns text := by
  simp only [ofText, noAddress, noMailbox]

/-- A host that a text names is named by its own text. -/
theorem ofText_text_ofText (text : String) : ofText (ofText text).text = ofText text := by
  cases address : IpAddress.parse? text with
  | some found =>
      rw [ofText_address address]
      exact ofText_address (IpAddress.parse?_toString found)
  | none =>
      cases mailbox : Email.parse? text with
      | some found =>
          have isAddress := (Email.parse?_eq_some_iff.mp mailbox).1
          rw [ofText_email address mailbox]
          -- The at sign keeps the mailbox alone from being taken for an address first.
          exact ofText_email (IpAddress.parse?_of_at isAddress.at_mem)
            (Email.parse?_of_isAddrSpec isAddress)
      | none =>
          have same : (ofText text).text = text := by
            rw [ofText_other address mailbox]
            split <;> rfl
          rw [same]

/-- Identifiers and host names are the texts that name them. -/
theorem eq_of_ofText {text found : String}
    (named : ofText text = .uri found ∨ ofText text = .dns found) : found = text := by
  cases address : IpAddress.parse? text with
  | some other => simp [ofText_address address] at named
  | none =>
      cases mailbox : Email.parse? text with
      | some other => simp [ofText_email address mailbox] at named
      | none =>
          rw [ofText_other address mailbox] at named
          split at named <;> simpa [eq_comm] using named

/-- A text without colon and at sign names itself, unless it is four decimal octets. -/
theorem ofText_eq_dns_iff {text : String} (noColon : ':' ∉ text.toList)
    (noAt : '@' ∉ text.toList) : ofText text = .dns text ↔ ¬ IpAddress.IsDottedQuad text := by
  rw [← IpAddress.parse?_eq_none_of_no_colon noColon]
  constructor
  · intro named
    cases address : IpAddress.parse? text with
    | none => rfl
    | some found =>
        rw [ofText_address address] at named
        cases named
  · intro address
    rw [ofText_other address (Email.parse?_of_no_at noAt),
      if_neg fun absolute => noColon (Uri.colon_mem_of_isAbsolute absolute)]

/-! ## Verbatim texts -/

theorem dns?_ofText (text : String) :
    (ofText text).dns? = Option.guard (fun text => ofText text = .dns text) text := by
  cases named : ofText text with
  | dns found =>
      rcases eq_of_ofText (.inr named) with rfl
      simp [dns?, Option.guard, named]
  | _ => simp [dns?, Option.guard, named]

theorem uri?_ofText (text : String) :
    (ofText text).uri? = Option.guard (fun text => ofText text = .uri text) text := by
  cases named : ofText text with
  | uri found =>
      rcases eq_of_ofText (.inl named) with rfl
      simp [uri?, Option.guard, named]
  | _ => simp [uri?, Option.guard, named]

end Host

namespace Hosts

/-- The hosts of texts are those that the texts name one by one. -/
theorem classify_eq (texts : List String) : classify texts = ofList (texts.map Host.ofText) := by
  rw [classify, ← foldl_add_empty, List.foldl_map]

theorem classify_append (left right : List String) :
    classify (left ++ right) = (classify left).append (classify right) := by
  rw [classify_eq, classify_eq, classify_eq, List.map_append, ofList_append]

theorem size_classify (texts : List String) : (classify texts).size = texts.length := by
  rw [classify_eq, size_ofList, List.length_map]

theorem isEmpty_classify (texts : List String) : (classify texts).isEmpty = texts.isEmpty := by
  rw [Bool.eq_iff_iff, isEmpty_iff, size_classify, List.isEmpty_iff, List.length_eq_zero_iff]

theorem dnsNames_classify (texts : List String) :
    (classify texts).dnsNames = texts.filter fun text => Host.ofText text = .dns text := by
  have guarded : Host.dns? ∘ Host.ofText = Option.guard fun text => Host.ofText text = .dns text :=
    funext Host.dns?_ofText
  simp only [classify_eq, ofList, List.filterMap_map, guarded, List.filterMap_eq_filter]

theorem uris_classify (texts : List String) :
    (classify texts).uris = texts.filter fun text => Host.ofText text = .uri text := by
  have guarded : Host.uri? ∘ Host.ofText = Option.guard fun text => Host.ofText text = .uri text :=
    funext Host.uri?_ofText
  simp only [classify_eq, ofList, List.filterMap_map, guarded, List.filterMap_eq_filter]

/-- The texts of hosts that texts name, in an order that keeps the one within each kind, name
these hosts again. -/
theorem classify_map_text {texts : List String} {hosts : List Host}
    (same : ofList hosts = classify texts) : classify (hosts.map Host.text) = classify texts := by
  have named : ∀ host ∈ hosts, Host.ofText host.text = host := by
    intro host member
    -- Whatever the order, the hosts are those that the texts name.
    have fromTexts := (perm_of_ofList_eq (same.trans (classify_eq texts))).mem_iff.mp member
    rcases List.mem_map.mp fromTexts with ⟨text, _, rfl⟩
    exact Host.ofText_text_ofText text
  have again : hosts.map (Host.ofText ∘ Host.text) = hosts.map id := List.map_congr_left named
  rw [classify_eq, List.map_map, again, List.map_id, same]

/-- Reading the hosts of texts once more changes nothing, in whatever order their texts are given
that keeps the one within each kind. -/
theorem classify_stable (texts : List String) :
    classify ((classify texts).toList.map Host.text) = classify texts ∧
      ∀ hosts, ofList hosts = classify texts →
        classify (hosts.map Host.text) = classify texts :=
  ⟨classify_map_text (ofList_toList _), fun _ same => classify_map_text same⟩

/-- A mailbox loses its brackets and an address its spelling, and both are recognized again. -/
theorem classify_stable_respelled :
    classify ["2001:db8::1:0:0:1", "admin@example.com", "a.example", "::ffff:10.0.0.1",
        "spiffe://x/y"] =
      classify ["Admin <admin@example.com>", "2001:DB8:0:0:1:0:0:1", "::ffff:a00:1", "a.example",
        "spiffe://x/y"] :=
  (classify_stable ["Admin <admin@example.com>", "2001:DB8:0:0:1:0:0:1", "::ffff:a00:1",
      "a.example", "spiffe://x/y"]).2
    [.address (.v6 0x2001 0xdb8 0 0 1 0 0 1), .email "admin@example.com", .dns "a.example",
      .address (.v6 0 0 0 0 0 0xffff 0xa00 1), .uri "spiffe://x/y"] (by decide +kernel)

/-- The four lists divide the hosts of texts among them: each text has its host in one of them, in
its order.  Names and identifiers are the texts themselves, and a text without colon and at sign is
a name, unless it is four decimal octets. -/
theorem classify_partitions (texts : List String) :
    (classify texts).toList.Perm (texts.map Host.ofText) ∧
      (classify texts).size = texts.length ∧
      (∀ others, classify (texts ++ others) = (classify texts).append (classify others)) ∧
      (classify texts).dnsNames = (texts.filter fun text => Host.ofText text = .dns text) ∧
      (classify texts).uris = (texts.filter fun text => Host.ofText text = .uri text) ∧
      ((classify texts).isEmpty = true ↔ texts = []) ∧
      ∀ text ∈ texts, ':' ∉ text.toList → '@' ∉ text.toList →
        (text ∈ (classify texts).dnsNames ↔ ¬ IpAddress.IsDottedQuad text) := by
  refine ⟨?onceEach, size_classify texts, classify_append texts, dnsNames_classify texts,
    uris_classify texts, ?empty, ?other⟩
  case onceEach =>
    rw [classify_eq]
    exact toList_ofList _
  case empty => rw [isEmpty_classify, List.isEmpty_iff]
  case other =>
    intro text member noColon noAt
    rw [dnsNames_classify, List.mem_filter, decide_eq_true_iff,
      Host.ofText_eq_dns_iff noColon noAt]
    exact and_iff_right member

/-- A leading zero keeps four numbers from being an address. -/
theorem classify_partitions_decimal :
    (classify ["10.1.0.1", "010.1.0.1"]).size = 2 ∧
      "10.1.0.1" ∉ (classify ["10.1.0.1", "010.1.0.1"]).dnsNames ∧
      "010.1.0.1" ∈ (classify ["10.1.0.1", "010.1.0.1"]).dnsNames := by
  have quad : IpAddress.IsDottedQuad "10.1.0.1" := ⟨10, 1, 0, 1, by decide⟩
  have noQuad : ¬ IpAddress.IsDottedQuad "010.1.0.1" :=
    (IpAddress.parse?_eq_none_of_no_colon (by decide)).mp (by decide +kernel)
  rcases classify_partitions ["10.1.0.1", "010.1.0.1"] with ⟨-, size, -, -, -, -, names⟩
  exact ⟨size, fun member => (names _ (by decide) (by decide) (by decide)).mp member quad,
    (names _ (by decide) (by decide) (by decide)).mpr noQuad⟩

end Hosts

end CertAuthority
