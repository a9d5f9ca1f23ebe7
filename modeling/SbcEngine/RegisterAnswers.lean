/-
What a REGISTER leaves behind, by its answer.

`handle` has a dozen ways out.  All but three of them refuse the request; a
refused request leaves the bindings and their times of mirroring alone and tells
the control plane nothing.

* `Handled` — the four kinds of outcomes;
* `handle_handled` — every request has one of them;
* `handle_once` — every request is answered once;
* `Applies` — the contacts of a request are on file, or gone;
* `handle_atomic` — a request that is refused changes nothing, one that is accepted
  has all its contacts applied.

Design notes: `Handled` is what the other modules about REGISTER requests build
on, so that they do not look into `handle` again.
-/
import SbcEngine.Registrar

namespace SbcEngine

namespace Registrar

/-! ### Outcomes -/

/-- The address of record a request is about. -/
def Request.aor (req : Request) : String := makeAor req.toUser req.toHost

/-- The bindings a request asks for, and which of them are mirrored. -/
def decided (R : RegistrarActions) (clock : Clock) (req : Request) (store : BindingStore) :
    List (Binding × Bool) :=
  decideMirrors store req.aor (newBindings R req clock.registering) clock.registering

/-- What can become of a request. -/
inductive Handled (R : RegistrarActions) (clock : Clock) (req : Request) (store : BindingStore) :
    Outcome → Prop
  | refused {responses : List Response} (hstatus : ∀ r ∈ responses, r.status ≠ 200) :
      Handled R clock req store ⟨store, [], responses⟩
  | queried (hcontacts : req.contacts = []) :
      Handled R clock req store ⟨store, [], sendOk R clock store req.aor⟩
  | cleared {contact : Contact} (hcontacts : req.contacts = [contact]) (hstar : contact.star = true) :
      Handled R clock req store
        ⟨store.removeAll req.aor,
          (store.findLive req.aor clock.registering).flatMap fun b =>
            mirrorRegistration R clock.registering req.aor b true req.userAgent,
          sendOk R clock (store.removeAll req.aor) req.aor⟩
  | registered (hcontacts : req.contacts ≠ []) (hstar : ∀ contact ∈ req.contacts, contact.star = false)
      (hbrief : ∀ contact ∈ req.contacts, tooBrief R req contact = false)
      {store' : BindingStore}
      (happly : store.applyContacts req.aor ((decided R clock req store).map (·.1)) =
        (store', .applied)) :
      Handled R clock req store
        ⟨store', mirrorAll R clock req.aor (decided R clock req store) req.userAgent,
          sendOk R clock store' req.aor⟩

theorem respond_status {R : RegistrarActions} {status : ℤ} (h : status ≠ 200) :
    ∀ r ∈ respond R status, r.status ≠ 200 := by
  intro r hr
  rw [respond] at hr
  split_ifs at hr
  · obtain rfl := List.mem_singleton.mp hr
    exact h
  · cases hr

theorem registerContacts_handled (R : RegistrarActions) (clock : Clock) (req : Request)
    (store : BindingStore) (hcontacts : req.contacts ≠ [])
    (hstar : ∀ contact ∈ req.contacts, contact.star = false)
    (hbrief : ∀ contact ∈ req.contacts, tooBrief R req contact = false) :
    Handled R clock req store (registerContacts R clock req req.aor store) := by
  rw [registerContacts]
  split
  · exact .refused (respond_status (by decide))
  · next happly => exact .registered hcontacts hstar hbrief happly

theorem processRegistration_handled (R : RegistrarActions) (clock : Clock) (req : Request)
    (store : BindingStore) :
    Handled R clock req store (processRegistration R clock req req.toHost store) := by
  rw [processRegistration]
  dsimp only
  split
  · next hnil => exact .queried hnil
  · next first rest hcontacts =>
    split_ifs with hstar hbad hbrief hprint
    · exact .refused (respond_status (by decide))
    · simp only [Bool.or_eq_true, decide_eq_true_eq, not_or, not_not] at hbad
      obtain ⟨rfl, -⟩ := hbad
      refine .cleared hcontacts ?_
      simpa [hcontacts] using hstar
    · refine .refused fun r hr => ?_
      rw [rejectTooBrief] at hr
      split_ifs at hr
      · obtain rfl := List.mem_singleton.mp hr
        simp
      · cases hr
    · exact .refused (respond_status (by decide))
    · simp only [List.any_eq_true, not_exists, not_and, Bool.not_eq_true] at hstar hbrief
      exact registerContacts_handled R clock req store (by rw [hcontacts]; simp) hstar hbrief

/-- Every request is refused, or answered as a query, or clears the address, or has
its contacts applied. -/
theorem handle_handled (R : RegistrarActions) (clock : Clock) (req : Request)
    (store : BindingStore) : Handled R clock req store (handle R clock req store) := by
  rw [handle]
  split
  · exact .refused (respond_status (by decide))
  · next realm hdomain =>
    obtain rfl := localDomain_eq hdomain
    split
    · split_ifs
      · exact .refused (respond_status (by decide))
      · exact processRegistration_handled R clock req store
    · refine .refused fun r hr => ?_
      rw [sendChallenge] at hr
      split_ifs at hr
      · obtain rfl := List.mem_singleton.mp hr
        simp
      · cases hr
    · next status _ =>
      refine .refused (respond_status ?_)
      split_ifs with hclient
      · omega
      · decide

/-! ### One response -/

/-- There is one response, and it is final. -/
def AnswersOnce (responses : List Response) : Prop :=
  ∃ r, responses = [r] ∧ 200 ≤ r.status

section Responses

variable {R : RegistrarActions} (hresponds : R.stack.responds = true)
include hresponds

theorem respond_once {status : ℤ} (hstatus : 200 ≤ status) : AnswersOnce (respond R status) := by
  rw [respond, if_pos hresponds]
  exact ⟨_, rfl, hstatus⟩

theorem sendOk_once (clock : Clock) (store : BindingStore) (aor : String) :
    AnswersOnce (sendOk R clock store aor) := by
  rw [sendOk, if_pos hresponds]
  exact ⟨_, rfl, Int.le_refl 200⟩

theorem processRegistration_once (clock : Clock) (req : Request) (realm : String)
    (store : BindingStore) :
    AnswersOnce (processRegistration R clock req realm store).responses := by
  have hbad : AnswersOnce (respond R 400) := respond_once hresponds (by omega)
  rw [processRegistration]
  dsimp only
  split
  · exact sendOk_once hresponds clock store _
  · split
    · split
      · exact hbad
      · exact sendOk_once hresponds clock _ _
    · split
      · show AnswersOnce (rejectTooBrief R)
        rw [rejectTooBrief, if_pos hresponds]
        refine ⟨_, rfl, ?_⟩
        show (200 : ℤ) ≤ 423
        omega
      · split
        · exact hbad
        · rw [registerContacts]
          split
          · exact hbad
          · exact sendOk_once hresponds clock _ _

/-- Whatever becomes of a request, it is answered once. -/
theorem handle_once (clock : Clock) (req : Request) (store : BindingStore) :
    AnswersOnce (handle R clock req store).responses := by
  rw [handle]
  split
  · exact respond_once hresponds (by omega)
  · split
    · split
      · exact respond_once hresponds (by omega)
      · exact processRegistration_once hresponds clock req _ store
    · show AnswersOnce (sendChallenge R _)
      rw [sendChallenge, if_pos hresponds]
      refine ⟨_, rfl, ?_⟩
      show (200 : ℤ) ≤ 401
      omega
    · refine respond_once hresponds ?_
      split
      · omega
      · omega

end Responses

/-! ### Applied contacts -/

/-- Every contact of a request has been applied: a star has cleared the address; a
contact that no later one of the request names again is gone if it was granted no
time, and is on file as it was granted otherwise. -/
def Applies (R : RegistrarActions) (clock : Clock) (req : Request) (store : BindingStore) : Prop :=
  ∀ before contact later, req.contacts = before ++ contact :: later →
    (∀ contact' ∈ later, contact'.uri ≠ contact.uri) →
      if contact.star then ∀ uri, store.find req.aor uri = none
      else
        let b := newBinding R req clock.registering contact
        if b.removed then store.find req.aor contact.uri = none
        else ∃ mirroredAt, store.find req.aor contact.uri = some { b with mirroredAt := mirroredAt }

/-- The live binding a contact of a request replaces. -/
def previousBinding (clock : Clock) (req : Request) (store : BindingStore) (contact : Contact) :
    Option Binding :=
  (store.findLive req.aor clock.registering).find? (·.contactUri = contact.uri)

/-- The control plane is told of a contact of a request. -/
def mirrors (R : RegistrarActions) (clock : Clock) (req : Request) (store : BindingStore)
    (contact : Contact) : Bool :=
  let b := newBinding R req clock.registering contact
  shouldMirror (previousBinding clock req store contact) b b.removed clock.registering

/-- The binding for a contact of a request, with its time of mirroring. -/
def stamped (R : RegistrarActions) (clock : Clock) (req : Request) (store : BindingStore)
    (contact : Contact) : Binding :=
  { newBinding R req clock.registering contact with
    mirroredAt :=
      if mirrors R clock req store contact then clock.registering
      else ((previousBinding clock req store contact).map (·.mirroredAt)).getD 0 }

theorem decided_eq (R : RegistrarActions) (clock : Clock) (req : Request) (store : BindingStore) :
    decided R clock req store = req.contacts.map fun contact =>
      (stamped R clock req store contact, mirrors R clock req store contact) := by
  rw [decided, decideMirrors, newBindings, List.map_map]
  rfl

theorem registered_applies {R : RegistrarActions} {clock : Clock} {req : Request}
    {store store' : BindingStore} (hstar : ∀ contact ∈ req.contacts, contact.star = false)
    (happly : store.applyContacts req.aor ((decided R clock req store).map (·.1)) =
      (store', .applied)) : Applies R clock req store' := by
  intro before contact later hsplit hlater
  have hmem : contact ∈ req.contacts := by rw [hsplit]; simp
  have hfind := BindingStore.find_applyContacts (congrArg Prod.snd happly) contact.uri
  have hlast : BindingStore.lastFor ((decided R clock req store).map (·.1)) contact.uri =
      some (stamped R clock req store contact) := by
    rw [decided_eq, List.map_map, hsplit, List.map_append, List.map_cons]
    refine BindingStore.lastFor_last fun b' hb' => ?_
    obtain ⟨contact', hcontact', rfl⟩ := List.mem_map.mp hb'
    exact hlater contact' hcontact'
  rw [happly, hlast] at hfind
  rw [if_neg (by simp [hstar contact hmem])]
  dsimp only
  split_ifs with hremoved
  · exact hfind.trans (if_pos hremoved)
  · exact ⟨_, hfind.trans (if_neg hremoved)⟩

/-- **All or nothing.**  A request that is answered with anything but 200 leaves the
bindings as they are, down to their times of mirroring, and is not mirrored; one
with contacts that is answered with 200 has every one of them applied. -/
theorem handle_atomic (R : RegistrarActions) (clock : Clock) (req : Request) (store : BindingStore) :
    let outcome := handle R clock req store
    ((∃ r ∈ outcome.responses, r.status ≠ 200) → outcome.store = store ∧ outcome.events = []) ∧
      ((∃ r ∈ outcome.responses, r.status = 200) → req.contacts ≠ [] →
        Applies R clock req outcome.store) := by
  intro outcome
  have hhandled : Handled R clock req store outcome := handle_handled R clock req store
  have hok : ∀ store', ¬ ∃ r ∈ sendOk R clock store' req.aor, r.status ≠ 200 := by
    rintro store' ⟨r, hr, hstatus⟩
    rw [sendOk] at hr
    split_ifs at hr
    · obtain rfl := List.mem_singleton.mp hr
      exact hstatus rfl
    · cases hr
  clear_value outcome
  cases hhandled with
  | refused hstatus =>
    refine ⟨fun _ => ⟨rfl, rfl⟩, ?_⟩
    rintro ⟨r, hr, h200⟩
    exact absurd h200 (hstatus r hr)
  | queried hcontacts => exact ⟨fun h => absurd h (hok _), fun _ h => absurd hcontacts h⟩
  | cleared hcontacts hstar =>
    refine ⟨fun h => absurd h (hok _), fun _ _ before contact later hsplit _ => ?_⟩
    -- the star is the only contact
    have hstarred : contact.star = true := by
      have hmem : contact ∈ req.contacts := by rw [hsplit]; simp
      rw [hcontacts] at hmem
      rw [List.mem_singleton.mp hmem]
      exact hstar
    rw [if_pos hstarred]
    exact fun uri => BindingStore.find_removeAll store req.aor uri
  | registered _ hstar _ happly =>
    exact ⟨fun h => absurd h (hok _), fun _ _ => registered_applies hstar happly⟩

/-- A phone registers two contacts, the second for `expires` seconds. -/
def twoContacts (expires : UInt32) : Request where
  toIsSip := true
  toUser := "victim"
  toHost := "sbc.local"
  authorizations := [⟨"sbc.local", "victim", "hash of victim"⟩]
  contacts := [⟨false, "sip:victim@192.0.2.1:5060", 3600⟩, ⟨false, "sip:victim@192.0.2.2:5060", expires⟩]
  expires := none
  userAgent := none
  callId := "a84b4c76e66710"
  cseq := 1
  sourceAddress := "192.0.2.1"
  sourcePort := 5060

/-- Both contacts are refused for the second, which asks for ten seconds; both are
applied when it asks for a minute. -/
theorem handle_atomic_two_contacts :
    let clock : Clock := { registering := 0, mirroring := fun _ => 0, answering := 0 }
    (handle twoAccounts clock (twoContacts 10) (.empty .asListed)).store = .empty .asListed ∧
      Applies twoAccounts clock (twoContacts 60) (handle twoAccounts clock (twoContacts 60) (.empty .asListed)).store := by
  intro clock
  have hrefused : ∃ r ∈ (handle twoAccounts clock (twoContacts 10) (.empty .asListed)).responses, r.status ≠ 200 := by
    decide +kernel
  have haccepted : (handle twoAccounts clock (twoContacts 60) (.empty .asListed)).responses.map (·.status) = [200] := by
    decide +kernel
  obtain ⟨r, hr, hstatus⟩ : ∃ r ∈ (handle twoAccounts clock (twoContacts 60) (.empty .asListed)).responses,
      r.status = 200 := List.mem_map.mp (by rw [haccepted]; exact List.mem_singleton.mpr rfl)
  exact ⟨((handle_atomic twoAccounts clock (twoContacts 10) (.empty .asListed)).1 hrefused).1,
    (handle_atomic twoAccounts clock (twoContacts 60) (.empty .asListed)).2 ⟨r, hr, hstatus⟩ (by decide)⟩

end Registrar

end SbcEngine
