/-
The location service as a partial map.

What the location service is for can be said without its hash maps: under an address of
record and a contact there is at most one binding.  `Location.Spec` says what each
operation does to such a map and what it may return; the store is shown to do nothing
else.

* `Location.Spec` — the operations on the partial map;
* `Represents` — every binding is filed under its own contact, no address is kept
  without contacts;
* `perform_spec` — one operation of the store is one of the partial map, and keeps the
  representation;
* `store_refines_location` — every sequence of operations.

Design notes: the order of bindings that were refreshed at the same time is left open
by `IsLiveView`, as it is by the arrangement of the store.
-/
import SbcEngine.BindingSweep
import Mathlib.Logic.Function.Basic

namespace SbcEngine

/-- At most one binding under every address of record and contact. -/
abbrev Location := String → String → Option Binding

namespace Location

open BindingStore (Operation Result)

/-- A contact has a binding on file with its Call-ID and no lower CSeq. -/
def Conflicting (m : Location) (aor : String) (contacts : List Binding) : Prop :=
  ∃ incoming ∈ contacts, ∃ b, m aor incoming.contactUri = some b ∧
    b.callId = incoming.callId ∧ incoming.cseq ≤ b.cseq

/-- Delete the contact if its expiry is not after its refresh time, else store it. -/
def applied (aor : String) (m : Location) (incoming : Binding) : Location :=
  Function.update m aor <| Function.update (m aor) incoming.contactUri <|
    if incoming.expiresAt ≤ incoming.refreshedAt then none else some incoming

/-- The bindings of an address that expire after `now`, each once, ordered by
non-increasing time of refresh. -/
structure IsLiveView (m : Location) (aor : String) (now : ℤ) (l : List Binding) : Prop where
  mem_iff : ∀ b, b ∈ l ↔ (∃ uri, m aor uri = some b) ∧ now < b.expiresAt
  nodup : l.Nodup
  sorted : l.Pairwise fun a b => b.refreshedAt ≤ a.refreshedAt

/-- A live binding of the address with the greatest time of refresh, or nothing if none
is live. -/
structure IsPreferred (m : Location) (aor : String) (now : ℤ) (preferred : Option Binding) : Prop where
  none_iff : preferred = none ↔ ∀ uri b, m aor uri = some b → b.expiresAt ≤ now
  greatest : ∀ b, preferred = some b → (∃ uri, m aor uri = some b) ∧ now < b.expiresAt ∧
    ∀ uri b', m aor uri = some b' → now < b'.expiresAt → b'.refreshedAt ≤ b.refreshedAt

/-- What an operation at a time does to the map, and what it may return. -/
inductive Spec (m : Location) : ℤ × Operation → Result → Location → Prop
  | conflict {now : ℤ} {aor : String} {contacts : List Binding} (h : m.Conflicting aor contacts) :
      Spec m (now, .applyContacts aor contacts) (.applied .callIdCseqConflict) m
  | apply {now : ℤ} {aor : String} {contacts : List Binding} (h : ¬ m.Conflicting aor contacts) :
      Spec m (now, .applyContacts aor contacts) (.applied .applied) (contacts.foldl (applied aor) m)
  | removeAll {now : ℤ} {aor : String} :
      Spec m (now, .removeAll aor) .done (Function.update m aor fun _ => none)
  | findLive {now : ℤ} {aor : String} {l : List Binding} (h : m.IsLiveView aor now l) :
      Spec m (now, .findLive aor) (.live l) m
  | findPreferred {now : ℤ} {aor : String} {preferred : Option Binding}
      (h : m.IsPreferred aor now preferred) :
      Spec m (now, .findPreferred aor) (.preferred preferred) m
  | sweep {now : ℤ} :
      Spec m (now, .sweep) .done fun aor uri => (m aor uri).filter fun b => now < b.expiresAt

end Location

namespace BindingStore

/-! ### The representation -/

/-- Every contact is filed under its own URI. -/
def ContactsKeyed (contacts : ContactMap) : Prop :=
  ∀ uri b, contacts.lookup uri = some b → b.contactUri = uri

/-- Every stored key is the binding's own contact, and no address is kept with an empty
contact map. -/
structure Represents (s : BindingStore) : Prop where
  keyed : ∀ aor contacts, s.bindings.lookup aor = some contacts → ContactsKeyed contacts
  nonempty : ∀ aor contacts, s.bindings.lookup aor = some contacts → contacts.entries ≠ []

theorem Represents.contactsOf {s : BindingStore} (h : s.Represents) (aor : String) :
    ContactsKeyed (s.contactsOf aor) := by
  rw [BindingStore.contactsOf]
  cases hlookup : s.bindings.lookup aor with
  | none =>
    intro uri b hb
    cases hb
  | some contacts => exact h.keyed aor contacts hlookup

theorem applyContact_keyed {contacts : ContactMap} (h : ContactsKeyed contacts) (b : Binding) :
    ContactsKeyed (applyContact contacts b) := by
  intro uri b' hb'
  rw [lookup_applyContact] at hb'
  split_ifs at hb' with huri hremoved
  · cases hb'
    exact huri
  · exact h uri b' hb'

theorem applyAll_keyed {contacts : ContactMap} (h : ContactsKeyed contacts) (bs : List Binding) :
    ContactsKeyed (bs.foldl applyContact contacts) := by
  induction bs generalizing contacts with
  | nil => exact h
  | cons b bs ih => exact ih (applyContact_keyed h b)

theorem Represents.setContacts {s : BindingStore} (h : s.Represents) (aor : String)
    {contacts : ContactMap} (hkeyed : ContactsKeyed contacts) :
    (s.setContacts aor contacts).Represents := by
  have hlookup : ∀ aor' c, (s.setContacts aor contacts).bindings.lookup aor' = some c →
      s.bindings.lookup aor' = some c ∨ (c = contacts ∧ contacts.entries ≠ []) := by
    intro aor' c hc
    rw [BindingStore.setContacts] at hc
    by_cases haor : aor' = aor
    · subst haor
      split_ifs at hc with hempty
      · rw [AList.lookup_erase] at hc
        cases hc
      · rw [AList.lookup_insert] at hc
        exact .inr ⟨(Option.some.inj hc).symm, fun hnil => hempty (List.isEmpty_iff.mpr hnil)⟩
    · split_ifs at hc
      · exact .inl (by rwa [AList.lookup_erase_ne haor] at hc)
      · exact .inl (by rwa [AList.lookup_insert_ne haor] at hc)
  constructor
  · intro aor' c hc
    rcases hlookup aor' c hc with hold | ⟨rfl, -⟩
    · exact h.keyed aor' c hold
    · exact hkeyed
  · intro aor' c hc
    rcases hlookup aor' c hc with hold | ⟨rfl, hne⟩
    · exact h.nonempty aor' c hold
    · exact hne

theorem Represents.applyContacts {s : BindingStore} (h : s.Represents) (aor : String)
    (contacts : List Binding) : (s.applyContacts aor contacts).1.Represents := by
  rcases s.applyContacts_cases aor contacts with hcase | hcase
  · rw [hcase]
    exact h
  · rw [hcase]
    have hset := h.setContacts aor (applyAll_keyed (h.contactsOf aor) contacts)
    exact ⟨hset.keyed, hset.nonempty⟩

theorem Represents.removeAll {s : BindingStore} (h : s.Represents) (aor : String) :
    (s.removeAll aor).Represents := by
  have hlookup : ∀ aor' c, (s.removeAll aor).bindings.lookup aor' = some c →
      s.bindings.lookup aor' = some c := by
    intro aor' c hc
    rw [BindingStore.removeAll] at hc
    by_cases haor : aor' = aor
    · rw [haor, AList.lookup_erase] at hc
      cases hc
    · rwa [AList.lookup_erase_ne haor] at hc
  exact ⟨fun aor' c hc => h.keyed aor' c (hlookup aor' c hc),
    fun aor' c hc => h.nonempty aor' c (hlookup aor' c hc)⟩

theorem lookup_sweepContacts (now : ℤ) (contacts : ContactMap) (uri : String) :
    (sweepContacts now contacts).lookup uri =
      (contacts.lookup uri).filter fun b => now < b.expiresAt :=
  dlookup_filter contacts.nodupKeys _ uri

theorem Represents.sweep {s : BindingStore} (h : s.Represents) (now : ℤ) :
    (s.sweep now).Represents := by
  have hlookup : ∀ aor c, (s.sweep now).bindings.lookup aor = some c →
      ∃ old, s.bindings.lookup aor = some old ∧ c = sweepContacts now old ∧ c.entries ≠ [] := by
    intro aor c hc
    rw [lookup_sweep, Option.filter_eq_some_iff, Option.map_eq_some_iff] at hc
    obtain ⟨⟨old, hold, rfl⟩, hne⟩ := hc
    exact ⟨old, hold, rfl, by simpa using hne⟩
  constructor
  · intro aor c hc uri b hb
    obtain ⟨old, hold, rfl, -⟩ := hlookup aor c hc
    rw [lookup_sweepContacts, Option.filter_eq_some_iff] at hb
    exact h.keyed aor old hold uri b hb.1
  · intro aor c hc
    obtain ⟨-, -, -, hne⟩ := hlookup aor c hc
    exact hne

/-! ### The mutators on the partial map -/

theorem conflicting_iff (s : BindingStore) (aor : String) (contacts : List Binding) :
    (contacts.any fun incoming => (s.find aor incoming.contactUri).any (conflicts · incoming)) = true ↔
      Location.Conflicting s.find aor contacts := by
  simp only [List.any_eq_true, Option.any_eq_true, conflicts, Bool.and_eq_true, decide_eq_true_eq,
    Location.Conflicting]

/-- Applying contacts to one address is the fold on the partial map. -/
theorem find_setContacts_fold (s : BindingStore) (aor : String) (contacts : List Binding) :
    (s.setContacts aor (contacts.foldl applyContact (s.contactsOf aor))).find =
      contacts.foldl (Location.applied aor) s.find := by
  -- the fold only sees the contacts of the address
  have hfold : ∀ (bs : List Binding) (c : ContactMap),
      bs.foldl (Location.applied aor) (Function.update s.find aor fun uri => c.lookup uri) =
        Function.update s.find aor fun uri => (bs.foldl applyContact c).lookup uri := by
    intro bs
    induction bs with
    | nil => exact fun c => rfl
    | cons b bs ih =>
      intro c
      rw [List.foldl_cons, List.foldl_cons, ← ih]
      congr 1
      rw [Location.applied, Function.update_self, Function.update_idem]
      congr 1
      funext uri
      rw [lookup_applyContact, Function.update_apply]
      simp only [Binding.removed, decide_eq_true_eq, eq_comm (a := uri)]
  have hstart : (Function.update s.find aor fun uri => (s.contactsOf aor).lookup uri) = s.find :=
    Function.update_eq_self aor s.find
  rw [← hstart, hfold]
  funext aor' uri
  rw [find, contactsOf_setContacts]
  by_cases haor : aor' = aor
  · rw [if_pos haor, haor, Function.update_self]
  · rw [if_neg haor, Function.update_of_ne haor]
    rfl

theorem find_removeAll_update (s : BindingStore) (aor : String) :
    (s.removeAll aor).find = Function.update s.find aor fun _ => none := by
  funext aor' uri
  by_cases haor : aor' = aor
  · rw [haor, Function.update_self, find_removeAll]
  · rw [Function.update_of_ne haor, find_removeAll_other haor]

theorem find_sweep (s : BindingStore) (now : ℤ) (aor uri : String) :
    (s.sweep now).find aor uri = (s.find aor uri).filter fun b => now < b.expiresAt := by
  rw [find, contactsOf_sweep, lookup_sweepContacts]
  rfl

/-! ### The live view -/

/-- Bindings under different contacts are different. -/
theorem findLive_nodup {s : BindingStore} (h : s.Represents) (aor : String) (now : ℤ) :
    (s.findLive aor now).Nodup := by
  have hkeys : ((s.contactsOf aor).entries.map (·.2)).map (·.contactUri) =
      (s.contactsOf aor).entries.map (·.1) := by
    rw [List.map_map]
    refine List.map_congr_left fun e he => ?_
    exact h.contactsOf aor e.1 e.2 (AList.mem_lookup_iff.mpr he)
  have hnodup : ((s.contactsOf aor).entries.map (·.2)).Nodup := by
    refine List.Nodup.of_map (·.contactUri) ?_
    rw [hkeys]
    exact (s.contactsOf aor).nodupKeys
  exact (s.findLive_perm aor now).nodup_iff.mpr (hnodup.filter _)

theorem findLive_isLiveView {s : BindingStore} (h : s.Represents) (aor : String) (now : ℤ) :
    Location.IsLiveView s.find aor now (s.findLive aor now) where
  mem_iff _ := mem_findLive
  nodup := findLive_nodup h aor now
  sorted := findLive_sorted s aor now

theorem findPreferred_isPreferred (s : BindingStore) (aor : String) (now : ℤ) :
    Location.IsPreferred s.find aor now (s.findPreferred aor now) := by
  have hmem : ∀ b, b ∈ s.live aor now ↔ (∃ uri, s.find aor uri = some b) ∧ now < b.expiresAt :=
    fun b => (s.findLive_perm aor now).mem_iff.symm.trans mem_findLive
  constructor
  · rw [findPreferred_eq_none]
    constructor
    · intro hnil uri b hb
      have hnot := (hmem b).not.mp (by rw [hnil]; exact List.not_mem_nil)
      by_contra hlive
      exact hnot ⟨⟨uri, hb⟩, by omega⟩
    · intro hnone
      refine List.eq_nil_iff_forall_not_mem.mpr fun b hb => ?_
      obtain ⟨⟨uri, huri⟩, hlive⟩ := (hmem b).mp hb
      have hexpired := hnone uri b huri
      omega
  · intro b hb
    obtain ⟨hon, hlatest⟩ := latest_of_findPreferred hb
    obtain ⟨hfind, hlive⟩ := (hmem b).mp hon
    exact ⟨hfind, hlive, fun uri b' hb' hlive' => hlatest b' ((hmem b').mpr ⟨⟨uri, hb'⟩, hlive'⟩)⟩

/-! ### Sequences of operations -/

/-- One operation of the store is one of the partial map. -/
theorem perform_spec {s : BindingStore} (h : s.Represents) (op : ℤ × Operation) :
    Location.Spec s.find op (s.perform op).2 (s.perform op).1.find ∧ (s.perform op).1.Represents := by
  obtain ⟨now, op⟩ := op
  cases op with
  | applyContacts aor contacts =>
    refine ⟨?_, h.applyContacts aor contacts⟩
    show Location.Spec s.find _ (.applied (s.applyContacts aor contacts).2)
      (s.applyContacts aor contacts).1.find
    rw [applyContacts]
    split_ifs with hconflict
    · exact .conflict ((conflicting_iff s aor contacts).mp hconflict)
    · rw [find_record, find_setContacts_fold]
      exact .apply fun hc => hconflict ((conflicting_iff s aor contacts).mpr hc)
  | removeAll aor =>
    refine ⟨?_, h.removeAll aor⟩
    show Location.Spec s.find _ .done (s.removeAll aor).find
    rw [find_removeAll_update]
    exact .removeAll
  | findLive aor => exact ⟨.findLive (findLive_isLiveView h aor now), h⟩
  | findPreferred aor => exact ⟨.findPreferred (findPreferred_isPreferred s aor now), h⟩
  | sweep =>
    refine ⟨?_, h.sweep now⟩
    show Location.Spec s.find _ .done (s.sweep now).find
    rw [show (s.sweep now).find = _ from funext fun aor => funext fun uri => find_sweep s now aor uri]
    exact .sweep

/-- **The store is a partial map.**  For every sequence of operations on a store that
begins empty: what they return is what they may return on the partial map from addresses
and contacts to bindings, the store ends as the partial map does, every binding is filed
under its own contact and no address is kept without contacts. -/
theorem store_refines_location (r : Arrangement) (ops : List (ℤ × Operation)) :
    Runs.Traces Location.Spec (fun _ _ => none) (Runs.trace perform (empty r) ops)
        (after (empty r) ops).find ∧
      (after (empty r) ops).Represents := by
  have hempty : (empty r).Represents := by
    constructor
    · intro aor contacts h
      cases h
    · intro aor contacts h
      cases h
  exact Runs.traces_of_simulates find (fun s op h => perform_spec h op) ops hempty

end BindingStore

end SbcEngine
