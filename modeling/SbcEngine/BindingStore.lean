/-
The location service: an address of record and its registered contacts.

* `Arrangement` — the order in which the bindings of an address come out;
* `applyContacts` — all contacts of a REGISTER, or none on a Call-ID/CSeq
  conflict;
* `find` — one binding, by address of record and contact;
* `sweep` — without the bindings that have expired;
* `find_applyContacts`, `find_applyContacts_other` — what applying contacts does to
  the bindings of its address, and of the others.

Design notes: times are readings of the steady clock in nanoseconds.  The
source's hash maps are association lists without duplicate keys; an address
whose last contact goes is dropped.  The order of bindings that were refreshed at
the same time is left open, as the source leaves it to its hash map and to a sort
that need not be stable: a store comes with an arrangement, which may turn on all
that was done to the maps.
-/
import SbcEngine.Runs
import Mathlib.Data.Int.Notation
import Mathlib.Data.List.AList
import Mathlib.Data.List.Sort

namespace SbcEngine

/-- One registered contact of an address of record. -/
structure Binding where
  contactUri : String
  sourceAddress : String
  sourcePort : ℤ
  transport : String
  callId : String
  cseq : ℤ
  expiresAt : ℤ
  refreshedAt : ℤ
  mirroredAt : ℤ
  deriving DecidableEq, Repr

/-- A contact that was granted no time at all: it is to be removed. -/
def Binding.removed (b : Binding) : Bool := b.expiresAt ≤ b.refreshedAt

/-- The contacts of one address of record, by their URI. -/
abbrev ContactMap := AList fun _ : String => Binding

/-- A call that changes the maps. -/
inductive BindingStore.Change where
  | applyContacts (aor : String) (contacts : List Binding)
  | removeAll (aor : String)
  | sweep (now : ℤ)

/-- How the bindings of an address come out of the hash map and the sort: the most
recently refreshed first, and in any order where the times are equal. -/
structure BindingStore.Arrangement where
  arrange : List Change → String → List Binding → List Binding
  perm : ∀ changes aor l, (arrange changes aor l).Perm l
  sorted : ∀ changes aor l, (arrange changes aor l).Pairwise fun a b => b.refreshedAt ≤ a.refreshedAt

/-- The maps, with the changes they have seen. -/
structure BindingStore where
  bindings : AList fun _ : String => ContactMap
  arrangement : BindingStore.Arrangement
  changes : List BindingStore.Change

namespace BindingStore

/-- The most recently refreshed first, and of those refreshed at one time the favourite. -/
def Precedes (favourite : Option Binding) (a b : Binding) : Prop :=
  b.refreshedAt < a.refreshedAt ∨
    b.refreshedAt = a.refreshedAt ∧ (some b = favourite → some a = favourite)

instance (favourite : Option Binding) : DecidableRel (Precedes favourite) := fun a b =>
  inferInstanceAs (Decidable (b.refreshedAt < a.refreshedAt ∨
    b.refreshedAt = a.refreshedAt ∧ (some b = favourite → some a = favourite)))

instance (favourite : Option Binding) : Std.Total (Precedes favourite) where
  total a b := by
    rcases Int.lt_trichotomy b.refreshedAt a.refreshedAt with h | h | h
    · exact .inl (.inl h)
    · by_cases ha : some a = favourite
      · exact .inl (.inr ⟨h, fun _ => ha⟩)
      · exact .inr (.inr ⟨h.symm, fun ha' => absurd ha' ha⟩)
    · exact .inr (.inl h)

instance (favourite : Option Binding) : IsTrans Binding (Precedes favourite) where
  trans a b c hab hbc := by
    rcases hab with hab | ⟨hab, ha⟩
    · rcases hbc with hbc | ⟨hbc, -⟩
      · exact .inl (hbc.trans hab)
      · exact .inl (hbc ▸ hab)
    · rcases hbc with hbc | ⟨hbc, hb⟩
      · exact .inl (hab ▸ hbc)
      · exact .inr ⟨hbc.trans hab, fun hc => ha (hb hc)⟩

/-- Ties are broken for a favourite, which the changes so far decide, and else as the
association list has it. -/
def Arrangement.favouring (favourite : List Change → Option Binding) : Arrangement where
  arrange changes _ l := l.insertionSort (Precedes (favourite changes))
  perm changes _ l := List.perm_insertionSort (Precedes (favourite changes)) l
  sorted changes _ l :=
    (List.pairwise_insertionSort (Precedes (favourite changes)) l).imp fun h => by
      rcases h with h | ⟨h, -⟩ <;> omega

/-- Ties are left as the association list has them. -/
def Arrangement.asListed : Arrangement := .favouring fun _ => none

/-- No binding is on file. -/
def empty (arrangement : Arrangement) : BindingStore := ⟨∅, arrangement, []⟩

inductive ApplyResult where
  | applied
  | callIdCseqConflict
  deriving DecidableEq, Repr

/-- A matching Call-ID needs a strictly higher CSeq. -/
def conflicts (existing incoming : Binding) : Bool :=
  existing.callId = incoming.callId && incoming.cseq ≤ existing.cseq

/-- The contacts on file for an address. -/
def contactsOf (s : BindingStore) (aor : String) : ContactMap := (s.bindings.lookup aor).getD ∅

/-- The binding of one contact of an address. -/
def find (s : BindingStore) (aor contactUri : String) : Option Binding :=
  (s.contactsOf aor).lookup contactUri

def applyContact (contacts : ContactMap) (incoming : Binding) : ContactMap :=
  if incoming.removed then contacts.erase incoming.contactUri
  else contacts.insert incoming.contactUri incoming

/-- Replace the contacts of an address; an address without contacts is dropped. -/
def setContacts (s : BindingStore) (aor : String) (contacts : ContactMap) : BindingStore :=
  { s with
    bindings :=
      if contacts.entries.isEmpty then s.bindings.erase aor else s.bindings.insert aor contacts }

def record (s : BindingStore) (c : Change) : BindingStore := { s with changes := s.changes ++ [c] }

def applyContacts (s : BindingStore) (aor : String) (contacts : List Binding) :
    BindingStore × ApplyResult :=
  if contacts.any fun incoming =>
      (s.find aor incoming.contactUri).any (conflicts · incoming) then
    (s, .callIdCseqConflict)
  else
    ((s.setContacts aor (contacts.foldl applyContact (s.contactsOf aor))).record
      (.applyContacts aor contacts), .applied)

def removeAll (s : BindingStore) (aor : String) : BindingStore :=
  { s with bindings := s.bindings.erase aor, changes := s.changes ++ [.removeAll aor] }

/-- The bindings of an address that have not expired, as the association list has them. -/
def live (s : BindingStore) (aor : String) (now : ℤ) : List Binding :=
  ((s.contactsOf aor).entries.map (·.2)).filter fun b => now < b.expiresAt

/-- Every live contact of an address, most recently refreshed first. -/
def findLive (s : BindingStore) (aor : String) (now : ℤ) : List Binding :=
  s.arrangement.arrange s.changes aor (s.live aor now)

/-- The contact calls are routed to: the most recently refreshed live one. -/
def findPreferred (s : BindingStore) (aor : String) (now : ℤ) : Option Binding :=
  (s.findLive aor now).head?

/-- The contacts that have not expired. -/
def sweepContacts (now : ℤ) (contacts : ContactMap) : ContactMap where
  entries := contacts.entries.filter fun e => now < e.2.expiresAt
  nodupKeys := contacts.nodupKeys.sublist List.filter_sublist

/-- Drop every expired contact, and every address left with none. -/
def sweep (s : BindingStore) (now : ℤ) : BindingStore :=
  { s with
    bindings :=
      { entries := (s.bindings.entries.map (.map id fun _ => sweepContacts now)).filter fun e =>
          !e.2.entries.isEmpty
        nodupKeys := (s.bindings.nodupKeys.map₂ fun _ => sweepContacts now).sublist
          List.filter_sublist }
    changes := s.changes ++ [.sweep now] }

/-! ### What the operations do to one binding -/

theorem contactsOf_setContacts (s : BindingStore) (aor aor' : String) (contacts : ContactMap) :
    (s.setContacts aor contacts).contactsOf aor' =
      if aor' = aor then contacts else s.contactsOf aor' := by
  rw [contactsOf, contactsOf, setContacts]
  by_cases h : aor' = aor
  · subst h
    rw [if_pos rfl]
    split_ifs with hempty
    · rw [AList.lookup_erase, Option.getD_none]
      exact (AList.ext (List.isEmpty_iff.mp hempty)).symm
    · rw [AList.lookup_insert, Option.getD_some]
  · rw [if_neg h]
    split_ifs
    · rw [AList.lookup_erase_ne h]
    · rw [AList.lookup_insert_ne h]

@[simp] theorem contactsOf_record (s : BindingStore) (c : Change) :
    (s.record c).contactsOf = s.contactsOf := rfl

@[simp] theorem find_record (s : BindingStore) (c : Change) : (s.record c).find = s.find := rfl

/-- Contacts are all applied or none of them is. -/
theorem applyContacts_cases (s : BindingStore) (aor : String) (contacts : List Binding) :
    s.applyContacts aor contacts = (s, .callIdCseqConflict) ∨
      s.applyContacts aor contacts =
        ((s.setContacts aor (contacts.foldl applyContact (s.contactsOf aor))).record
          (.applyContacts aor contacts), .applied) := by
  rw [applyContacts]
  split_ifs
  · exact .inl rfl
  · exact .inr rfl

/-- Applying contacts of one address leaves every other address alone. -/
theorem find_applyContacts_other {s : BindingStore} {aor aor' : String} (h : aor' ≠ aor)
    (contacts : List Binding) (uri : String) :
    (s.applyContacts aor contacts).1.find aor' uri = s.find aor' uri := by
  rcases s.applyContacts_cases aor contacts with hcase | hcase
  · rw [hcase]
  · rw [hcase, find_record, find, contactsOf_setContacts, if_neg h]
    rfl

theorem find_removeAll_other {s : BindingStore} {aor aor' : String} (h : aor' ≠ aor)
    (uri : String) : (s.removeAll aor).find aor' uri = s.find aor' uri := by
  rw [find, find, contactsOf, contactsOf, removeAll, AList.lookup_erase_ne h]

theorem find_removeAll (s : BindingStore) (aor uri : String) :
    (s.removeAll aor).find aor uri = none := by
  rw [find, contactsOf, removeAll, AList.lookup_erase]
  rfl

theorem lookup_applyContact (contacts : ContactMap) (b : Binding) (uri : String) :
    (applyContact contacts b).lookup uri =
      if b.contactUri = uri then if b.removed then none else some b else contacts.lookup uri := by
  rw [applyContact]
  by_cases hb : b.contactUri = uri
  · rw [if_pos hb, ← hb]
    split_ifs
    · rw [AList.lookup_erase]
    · rw [AList.lookup_insert]
  · rw [if_neg hb]
    split_ifs
    · rw [AList.lookup_erase_ne (Ne.symm hb)]
    · rw [AList.lookup_insert_ne (Ne.symm hb)]

/-- The last contact of a list under a URI decides. -/
def lastFor (contacts : List Binding) (uri : String) : Option Binding :=
  (contacts.filter fun b => b.contactUri = uri).getLast?

theorem lastFor_last {before later : List Binding} {b : Binding}
    (h : ∀ b' ∈ later, b'.contactUri ≠ b.contactUri) :
    lastFor (before ++ b :: later) b.contactUri = some b :=
  Runs.last_of_split (decide_eq_true rfl) fun b' hb' => decide_eq_false (h b' hb')

theorem lookup_applyAll (contacts : ContactMap) (bs : List Binding) (uri : String) :
    (bs.foldl applyContact contacts).lookup uri =
      match lastFor bs uri with
      | none => contacts.lookup uri
      | some b => if b.removed then none else some b := by
  rw [Runs.foldl_last (fun c => AList.lookup uri c) (fun b => b.contactUri = uri)
    (fun b => if b.removed then none else some b)]
  · rw [lastFor]
    cases (bs.filter fun b => b.contactUri = uri).getLast? with
    | none => rfl
    | some b => rfl
  · intro c b hb
    rw [lookup_applyContact, if_pos (of_decide_eq_true hb)]
  · intro c b hb
    rw [lookup_applyContact, if_neg (of_decide_eq_false hb)]

/-- What accepted contacts leave on file. -/
theorem find_applyContacts {s : BindingStore} {aor : String} {contacts : List Binding}
    (h : (s.applyContacts aor contacts).2 = .applied) (uri : String) :
    (s.applyContacts aor contacts).1.find aor uri =
      match lastFor contacts uri with
      | none => s.find aor uri
      | some b => if b.removed then none else some b := by
  rcases s.applyContacts_cases aor contacts with hcase | hcase
  · rw [hcase] at h
    cases h
  · rw [hcase, find_record, find, contactsOf_setContacts, if_pos rfl]
    exact lookup_applyAll _ contacts uri

/-- The last contact of an accepted list is on file afterwards, or gone if it
was to be removed. -/
theorem find_applyContacts_last {s : BindingStore} {aor : String} {before : List Binding}
    {b : Binding} (h : (s.applyContacts aor (before ++ [b])).2 = .applied) :
    (s.applyContacts aor (before ++ [b])).1.find aor b.contactUri =
      if b.removed then none else some b := by
  rw [find_applyContacts h, lastFor_last (by simp)]

theorem findLive_perm (s : BindingStore) (aor : String) (now : ℤ) :
    (s.findLive aor now).Perm (s.live aor now) := s.arrangement.perm _ _ _

theorem findLive_sorted (s : BindingStore) (aor : String) (now : ℤ) :
    (s.findLive aor now).Pairwise fun a b => b.refreshedAt ≤ a.refreshedAt :=
  s.arrangement.sorted _ _ _

/-- The live contacts of an address. -/
theorem mem_findLive {s : BindingStore} {aor : String} {now : ℤ} {b : Binding} :
    b ∈ s.findLive aor now ↔ (∃ uri, s.find aor uri = some b) ∧ now < b.expiresAt := by
  rw [(s.findLive_perm aor now).mem_iff, live, List.mem_filter, List.mem_map, decide_eq_true_iff]
  refine and_congr_left fun _ => ?_
  constructor
  · rintro ⟨e, he, rfl⟩
    exact ⟨e.1, AList.mem_lookup_iff.mpr he⟩
  · rintro ⟨uri, huri⟩
    exact ⟨⟨uri, b⟩, AList.mem_lookup_iff.mp huri, rfl⟩

end BindingStore

end SbcEngine
