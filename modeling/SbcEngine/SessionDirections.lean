/-
The directions of a session description, counted on its text.

PJSIP moves a session direction into the media sections, so whether there was more
than one has to be read off the text before it is parsed.

* `scanDirections` — the loop of `has_valid_session_direction`, on views;
* `scanDirections_eq` — it is the model of `hasValidSessionDirection`;
* `sessionDirectionOk_iff` — what the fold over the lines has counted;
* `session_direction_counted` — over every text: it is refused exactly when two
  lines before the first media line name a direction.

Design notes: `none` is an exception of `substr` or a prefix that is not there, so
`some` says that the loop ends and never leaves its view.
-/
import SbcEngine.Sdp
import SbcEngine.TextView

namespace SbcEngine

namespace Sdp

open TextView

/-! ### The loop -/

def isLineEnd (c : Char) : Bool := c = '\r' || c = '\n'

def isNameEnd (c : Char) : Bool := c = ':' || c = ' ' || c = '\t'

/-- The line is an attribute that names a direction. -/
def lineNamesDirection (line : List Char) : Option Bool :=
  if ['a', '='].isPrefixOf line then
    (substr line 2 ((findFrom isNameEnd line 2).map (· - 2))).map fun name =>
      isDirectionName (String.ofList name)
  else some false

/-- The loop on what is left of the text. -/
def scanDirections (directionSeen : Bool) (sdp : List Char) : Option Bool :=
  if sdp = [] then some true
  else
    match substr sdp 0 (findFrom isLineEnd sdp 0) with
    | none => none
    | some line =>
      if ['m', '='].isPrefixOf line then some true
      else
        match lineNamesDirection line with
        | none => none
        | some direction =>
          if direction && directionSeen then some false
          else
            match findFrom isLineEnd sdp 0 with
            | none => some true
            | some stop =>
              match _h : removePrefix sdp (stop + 1) with
              | none => none
              | some rest => scanDirections (directionSeen || direction) rest
termination_by sdp.length
decreasing_by exact removePrefix_length (Nat.succ_pos _) _h

/-! ### Lines -/

/-- A line that is an attribute whose name is a direction. -/
def isDirectionLine (line : List Char) : Bool :=
  ['a', '='].isPrefixOf line && isDirectionName (attrLineName line)

/-- The lines before the first media line. -/
def sessionLines (sdp : String) : List (List Char) :=
  (sdp.toList.splitOnP isLineEnd).takeWhile fun line => !(['m', '='].isPrefixOf line)

theorem lineNamesDirection_eq (line : List Char) :
    lineNamesDirection line = some (isDirectionLine line) := by
  rw [lineNamesDirection, isDirectionLine]
  split_ifs with h
  · have hlength : 2 ≤ line.length := (List.isPrefixOf_iff_prefix.mp h).length_le
    rw [substr_findFrom isNameEnd hlength, h, Bool.true_and, attrLineName]
    have hname : ∀ c, (!isNameEnd c) = (c ≠ ':' && c ≠ ' ' && c ≠ '\t') := by
      intro c
      simp [isNameEnd, Bool.not_or]
    simp only [hname, Option.map_some]
  · simp [h]

/-- One line, seen from the fold over all of them. -/
theorem sessionDirectionOk_cons (seen : Bool) (line : List Char) (lines : List (List Char)) :
    sessionDirectionOk seen (line :: lines) =
      (['m', '='].isPrefixOf line ||
        !(isDirectionLine line && seen) && sessionDirectionOk (seen || isDirectionLine line) lines) := by
  rw [sessionDirectionOk, isDirectionLine]
  cases ['m', '='].isPrefixOf line
  · cases ['a', '='].isPrefixOf line && isDirectionName (attrLineName line) <;> cases seen <;> simp
  · simp

/-- The loop goes through the lines. -/
theorem scanDirections_lines (seen : Bool) (sdp : List Char) :
    scanDirections seen sdp = some (sessionDirectionOk seen (sdp.splitOnP isLineEnd)) := by
  have hline : ∀ s : List Char, substr s 0 (findFrom isLineEnd s 0) =
      some (s.takeWhile fun c => !isLineEnd c) := fun s => by
    simpa using substr_findFrom isLineEnd (Nat.zero_le s.length)
  induction sdp using lines_induction (p := isLineEnd) generalizing seen with
  | last line hl =>
    have hwhole : line.takeWhile (fun c => !isLineEnd c) = line :=
      List.takeWhile_eq_self_iff.mpr fun x hx => by simp [hl x hx]
    have hend : findFrom isLineEnd line 0 = none := findFrom_eq_none hl
    have hsub := hline line
    rw [hwhole, hend] at hsub
    rw [List.splitOnP_eq_singleton hl, scanDirections, sessionDirectionOk_cons]
    split_ifs with hnil
    · subst hnil
      rfl
    · simp only [hend, hsub, lineNamesDirection_eq, sessionDirectionOk, Bool.and_true]
      cases ['m', '='].isPrefixOf line <;> cases isDirectionLine line && seen <;> rfl
  | more line c rest hl hc ih =>
    have hend := findFrom_zero rest hl hc
    have hsub := hline (line ++ c :: rest)
    rw [takeWhile_line rest hl hc, hend] at hsub
    rw [List.splitOnP_append_cons_of_forall_mem hl c hc, scanDirections, if_neg (by simp),
      sessionDirectionOk_cons]
    simp only [hend, hsub, lineNamesDirection_eq]
    cases ['m', '='].isPrefixOf line with
    | true => rfl
    | false =>
      cases hseen : isDirectionLine line && seen with
      | true => simp
      | false =>
        -- the loop goes on behind the line end
        simp only [Bool.false_eq_true, if_false, Bool.false_or, Bool.not_false, Bool.true_and]
        split
        · next hrest =>
          rw [removePrefix_line] at hrest
          cases hrest
        · next hrest =>
          rw [removePrefix_line] at hrest
          cases hrest
          exact ih _

/-- `has_valid_session_direction` as it is used in `isValidSdp`. -/
theorem scanDirections_eq (sdp : String) :
    scanDirections false sdp.toList = some (hasValidSessionDirection sdp) :=
  scanDirections_lines false sdp.toList

/-! ### Counting -/

/-- With the direction that was seen before, at most one line names one. -/
theorem sessionDirectionOk_iff (seen : Bool) (lines : List (List Char)) :
    sessionDirectionOk seen lines = true ↔
      seen.toNat + (lines.takeWhile fun line => !(['m', '='].isPrefixOf line)).countP
        isDirectionLine ≤ 1 := by
  induction lines generalizing seen with
  | nil =>
    rw [sessionDirectionOk]
    simpa using Bool.toNat_le seen
  | cons line lines ih =>
    rw [sessionDirectionOk_cons]
    cases hm : ['m', '='].isPrefixOf line with
    | true => simpa [hm] using Bool.toNat_le seen
    | false =>
      rw [List.takeWhile_cons_of_pos (by rw [hm]; rfl), List.countP_cons, Bool.false_or,
        Bool.and_eq_true, ih]
      -- a line that names a direction moves the count from the lines to what was seen
      generalize (lines.takeWhile fun line => !(['m', '='].isPrefixOf line)).countP isDirectionLine = n
      cases isDirectionLine line <;> cases seen <;> grind

/-- **The session directions of a text.**  The loop ends, and refuses the text exactly
when at least two lines before the first media line are attributes whose name is a
direction. -/
theorem session_direction_counted (sdp : String) :
    ∃ valid, scanDirections false sdp.toList = some valid ∧
      (valid = false ↔ 2 ≤ (sessionLines sdp).countP isDirectionLine) := by
  refine ⟨hasValidSessionDirection sdp, scanDirections_eq sdp, ?_⟩
  have hcount : hasValidSessionDirection sdp = true ↔
      false.toNat + (sessionLines sdp).countP isDirectionLine ≤ 1 :=
    sessionDirectionOk_iff false (sdp.toList.splitOnP isLineEnd)
  rw [Bool.toNat_false, Nat.zero_add] at hcount
  rw [← Bool.not_eq_true, hcount, Nat.not_le]
  exact Iff.rfl

/-- Line ends of either kind, and a name that ends with the text. -/
example : scanDirections false "v=0\r\na=sendonly:x\n\ra=RecvOnly".toList = some false := by
  rw [scanDirections_eq]
  decide

end Sdp

end SbcEngine
