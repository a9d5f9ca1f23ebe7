/-
The dialog tags of a Replaces header, read off the raw text of a message.

PJSIP keeps only the last of several equal parameters, so whether a Replaces header has
one tag of each kind is checked on the text beside PJSIP's own parser.

* `rawReplacesValue`, `scanStep`, `replacesHasSingleDialogTags` — the source's scanners;
* `closedPieces` — what semicolons outside quoted strings separate;
* `tagCounts_scan` — the character loop counts the tags among those pieces;
* `rawReplacesValue_eq` — the line loop reads from the first line that is a Replaces
  header by itself;
* `single_dialog_tags_iff` — that line is the header PJSIP uses, and the answer is the
  one for its tags, exactly when neither a folded line nor a folded name comes first.

Design notes: a character is one byte of the message.  A header field is the list of
lines from the one that starts it on.
-/
import Mathlib.Algebra.Group.Nat.Defs
import Mathlib.Algebra.Group.Prod
import Mathlib.Data.List.DropRight
import Mathlib.Data.List.Infix
import SbcEngine.TextView

namespace SbcEngine

namespace ExtractUtils

open TextView

/-! ### The helpers of the source -/

def isLws (c : Char) : Bool := c = ' ' || c = '\t'

def isNewline (c : Char) : Bool := c = '\n'

def isColon (c : Char) : Bool := c = ':'

def isEquals (c : Char) : Bool := c = '='

def trimLws (value : List Char) : List Char :=
  (value.dropWhile isLws).rdropWhile isLws

def asciiIequals (lhs rhs : List Char) : Bool :=
  lhs.map Char.toLower = rhs.map Char.toLower

def kReplacesName : List Char := "Replaces".toList

/-- A line without the carriage return of its line end. -/
def stripCr (line : List Char) : List Char :=
  if line.getLast? = some '\r' then line.dropLast else line

/-- The line starts with a blank or a tab. -/
def isFolded (line : List Char) : Bool := line.head?.any isLws

/-- The test of a line for the header's name. -/
def namesReplaces (line : List Char) : Bool :=
  match findFrom isColon line 0 with
  | none => false
  | some colon => asciiIequals (trimLws (line.take colon)) kReplacesName

/-- What stands behind the first colon. -/
def afterColon (line : List Char) : List Char :=
  match findFrom isColon line 0 with
  | none => []
  | some colon => line.drop (colon + 1)

def nextLine (message : List Char) : List Char :=
  stripCr (message.take ((findFrom isNewline message 0).getD message.length))

def restLines (message : List Char) : List Char :=
  match findFrom isNewline message 0 with
  | none => []
  | some newline => message.drop (newline + 1)

theorem restLines_length {message : List Char} (h : message ≠ []) :
    (restLines message).length < message.length := by
  have hpos := List.length_pos_iff.mpr h
  rw [restLines]
  cases findFrom isNewline message 0 with
  | none => exact hpos
  | some newline =>
    rw [List.length_drop]
    omega

/-- The loop of `raw_replaces_value` on what is left of the message. -/
def rawReplacesLoop (value : List Char) (found firstLine : Bool) (message : List Char) :
    List Char :=
  if _h : message = [] then value
  else if firstLine then rawReplacesLoop value found false (restLines message)
  else if nextLine message = [] then value
  else if found && isFolded (nextLine message) then
    rawReplacesLoop (value ++ ' ' :: trimLws (nextLine message)) found false (restLines message)
  else if found then value
  else if namesReplaces (nextLine message) then
    rawReplacesLoop (trimLws (afterColon (nextLine message))) true false (restLines message)
  else rawReplacesLoop value false false (restLines message)
termination_by message.length
decreasing_by all_goals exact restLines_length _h

def rawReplacesValue (message : List Char) : List Char :=
  rawReplacesLoop [] false true message

/-- The variables of the loop over the characters of the value. -/
structure Scan where
  toTagCount : ℕ
  fromTagCount : ℕ
  quoted : Bool
  escaped : Bool
  parameterStart : Option ℕ
  deriving DecidableEq

def Scan.init : Scan := ⟨0, 0, false, false, none⟩

def parameterName (parameter : List Char) : List Char :=
  trimLws ((trimLws parameter).takeWhile fun c => !isEquals c)

def isToTag (parameter : List Char) : Bool :=
  asciiIequals (parameterName parameter) "to-tag".toList

def isFromTag (parameter : List Char) : Bool :=
  asciiIequals (parameterName parameter) "from-tag".toList

/-- The two counters after one parameter. -/
def Scan.count (scan : Scan) (parameter : List Char) : Scan :=
  if isToTag parameter then { scan with toTagCount := scan.toTagCount + 1 }
  else if isFromTag parameter then { scan with fromTagCount := scan.fromTagCount + 1 }
  else scan

def Scan.startAt (scan : Scan) (index : ℕ) : Scan := { scan with parameterStart := some index }

/-- The loop body at one index; behind the value stands a semicolon. -/
def scanStep (value : List Char) (scan : Scan) (index : ℕ) : Scan :=
  let character := value[index]?.getD ';'
  if scan.escaped then { scan with escaped := false }
  else if scan.quoted && character = '\\' then { scan with escaped := true }
  else if character = '"' then { scan with quoted := !scan.quoted }
  else if character ≠ ';' || scan.quoted then scan
  else
    match scan.parameterStart with
    | none => scan.startAt (index + 1)
    | some start => (scan.count ((value.drop start).take (index - start))).startAt (index + 1)

/-- The counters behind the loop. -/
def tagCounts (value : List Char) : ℕ × ℕ :=
  let scan := (List.range (value.length + 1)).foldl (scanStep value) Scan.init
  (scan.toTagCount, scan.fromTagCount)

def replacesHasSingleDialogTags (message : List Char) : Bool :=
  let value := rawReplacesValue message
  if value = [] then false else tagCounts value = (1, 1)

/-! ### Parameters outside quoted strings -/

/-- Where a character stands in a value. -/
inductive Quoting where
  | plain
  | quoted
  | escaped
  deriving DecidableEq

def Quoting.next : Quoting → Char → Quoting
  | .plain, c => if c = '"' then .quoted else .plain
  | .quoted, c => if c = '\\' then .escaped else if c = '"' then .plain else .quoted
  | .escaped, _ => .quoted

/-- The pieces between the semicolons outside quoted strings, less a last one whose
quoted string is open at the end. -/
def closedPieces : Quoting → List Char → List (List Char)
  | q, [] => if q = .plain then [[]] else []
  | q, c :: value =>
    if q = .plain ∧ c = ';' then [] :: closedPieces .plain value
    else (closedPieces (q.next c) value).modifyHead (c :: ·)

/-- The parameters of a header value: what follows its first semicolon. -/
def parameters (value : List Char) : List (List Char) :=
  (closedPieces .plain value).tail

/-- One parameter is named to-tag and one from-tag. -/
def SingleTags (value : List Char) : Prop :=
  (parameters value).countP isToTag = 1 ∧ (parameters value).countP isFromTag = 1

instance (value : List Char) : Decidable (SingleTags value) :=
  inferInstanceAs (Decidable (_ ∧ _))

/-- A blank before a value is part of no parameter. -/
theorem parameters_cons {c : Char} (hc : isLws c = true) (value : List Char) :
    parameters (c :: value) = parameters value := by
  obtain rfl | rfl : c = ' ' ∨ c = '\t' := by simpa [isLws] using hc
  all_goals
    simp only [parameters, closedPieces, Quoting.next, Char.reduceEq, and_false, if_false]
    exact List.tail_modifyHead ..

theorem parameters_append {blanks : List Char} (h : ∀ c ∈ blanks, isLws c = true)
    (value : List Char) : parameters (blanks ++ value) = parameters value := by
  induction blanks with
  | nil => rfl
  | cons c blanks ih =>
    rw [List.cons_append, parameters_cons (h c List.mem_cons_self),
      ih fun x hx => h x (List.mem_cons_of_mem c hx)]

/-! ### The character loop -/

/-- The automaton's state in the loop's two flags. -/
def Scan.quoting (scan : Scan) : Quoting :=
  if scan.escaped then .escaped else if scan.quoted then .quoted else .plain

/-- An escape is one inside a quoted string. -/
def Scan.Nested (scan : Scan) : Prop := scan.escaped = true → scan.quoted = true

/-- A character that separates nothing moves the flags and leaves the rest. -/
theorem scanStep_other {value : List Char} {scan : Scan} {index : ℕ} {c : Char}
    (hc : value[index]?.getD ';' = c) (hflags : scan.Nested)
    (h : ¬(scan.quoting = .plain ∧ c = ';')) :
    ∃ q e, scanStep value scan index = { scan with quoted := q, escaped := e } ∧
      (e = true → q = true) ∧
      Scan.quoting { scan with quoted := q, escaped := e } = scan.quoting.next c := by
  obtain ⟨toTags, fromTags, quoted, escaped, start⟩ := scan
  cases escaped with
  | true =>
    obtain rfl : quoted = true := hflags rfl
    exact ⟨true, false, by simp [scanStep], by simp, by simp [Scan.quoting, Quoting.next]⟩
  | false =>
    cases quoted with
    | true =>
      by_cases hback : c = '\\'
      · exact ⟨true, true, by simp [scanStep, hc, hback], by simp,
          by simp [Scan.quoting, Quoting.next, hback]⟩
      · by_cases hquote : c = '"'
        · exact ⟨false, false, by simp [scanStep, hc, hquote], by simp,
            by simp [Scan.quoting, Quoting.next, hquote]⟩
        · exact ⟨true, false, by simp [scanStep, hc, hback, hquote], by simp,
            by simp [Scan.quoting, Quoting.next, hback, hquote]⟩
    | false =>
      have hsep : c ≠ ';' := fun hsep => h ⟨rfl, hsep⟩
      by_cases hquote : c = '"'
      · exact ⟨true, false, by simp [scanStep, hc, hquote], by simp,
          by simp [Scan.quoting, Quoting.next, hquote]⟩
      · exact ⟨false, false, by simp [scanStep, hc, hsep, hquote], by simp,
          by simp [Scan.quoting, Quoting.next, hquote]⟩

theorem quoting_plain {scan : Scan} (h : scan.quoting = .plain) :
    scan.escaped = false ∧ scan.quoted = false := by
  obtain ⟨toTags, fromTags, quoted, escaped, start⟩ := scan
  cases escaped <;> cases quoted <;> simp [Scan.quoting] at h ⊢

/-- A semicolon outside quoted strings. -/
theorem scanStep_separator {value : List Char} {scan : Scan} {index : ℕ}
    (hc : value[index]?.getD ';' = ';') (h : scan.quoting = .plain) :
    scanStep value scan index =
      match scan.parameterStart with
      | none => scan.startAt (index + 1)
      | some start =>
        (scan.count ((value.drop start).take (index - start))).startAt (index + 1) := by
  obtain ⟨hescaped, hquoted⟩ := quoting_plain h
  simp [scanStep, hc, hescaped, hquoted]

theorem asciiIequals_trans {a b c : List Char} (h₁ : asciiIequals a b = true)
    (h₂ : asciiIequals a c = true) : asciiIequals b c = true := by
  simp only [asciiIequals, decide_eq_true_eq] at *
  exact h₁.symm.trans h₂

/-- No parameter has both names, so the second test needs no `else`. -/
theorem isToTag_isFromTag {parameter : List Char} (h : isToTag parameter = true) :
    isFromTag parameter = false := by
  rw [← Bool.not_eq_true]
  intro hfrom
  exact absurd (asciiIequals_trans h hfrom) (by decide)

/-- What a state of the loop has counted. -/
def Scan.counts (scan : Scan) : ℕ × ℕ := (scan.toTagCount, scan.fromTagCount)

/-- How many of the pieces are tags of each kind. -/
def pieceCounts (pieces : List (List Char)) : ℕ × ℕ :=
  (pieces.countP isToTag, pieces.countP isFromTag)

theorem pieceCounts_cons (piece : List Char) (pieces : List (List Char)) :
    pieceCounts (piece :: pieces) = pieceCounts [piece] + pieceCounts pieces := by
  simp only [pieceCounts, List.countP_cons, List.countP_nil, Prod.mk_add_mk, Prod.mk.injEq]
  omega

theorem count_counts (scan : Scan) (parameter : List Char) :
    (scan.count parameter).counts = scan.counts + pieceCounts [parameter] := by
  unfold Scan.count
  split_ifs with hto hfrom
  · simp [Scan.counts, pieceCounts, hto, isToTag_isFromTag hto]
  · simp [Scan.counts, pieceCounts, hto, hfrom]
  · simp [Scan.counts, pieceCounts, hto, hfrom]

theorem count_quoting (scan : Scan) (parameter : List Char) :
    (scan.count parameter).quoting = scan.quoting := by
  unfold Scan.count
  split_ifs <;> rfl

theorem count_nested {scan : Scan} (parameter : List Char) (h : scan.Nested) :
    (scan.count parameter).Nested := by
  unfold Scan.count
  split_ifs <;> exact h

@[simp] theorem startAt_counts (scan : Scan) (index : ℕ) :
    (scan.startAt index).counts = scan.counts := rfl

@[simp] theorem startAt_quoting (scan : Scan) (index : ℕ) :
    (scan.startAt index).quoting = scan.quoting := rfl

theorem startAt_nested {scan : Scan} (index : ℕ) (h : scan.Nested) :
    (scan.startAt index).Nested := h

@[simp] theorem flags_counts (scan : Scan) (q e : Bool) :
    Scan.counts { scan with quoted := q, escaped := e } = scan.counts := rfl

/-- What stands between two positions. -/
theorem slice_eq {value pre cur rest : List Char} (hvalue : value = pre ++ (cur ++ rest)) :
    (value.drop pre.length).take (pre.length + cur.length - pre.length) = cur := by
  rw [hvalue, List.drop_left, Nat.add_sub_cancel_left, List.take_left]

theorem modifyHead_nil_append (pieces : List (List Char)) :
    pieces.modifyHead ([] ++ ·) = pieces := by
  cases pieces <;> rfl

/-- The loop from inside a parameter on: `cur` is the part of it that was read. -/
theorem scan_parameter {value : List Char} (pre cur rest : List Char) (scan : Scan)
    (hvalue : value = pre ++ (cur ++ rest)) (hflags : scan.Nested)
    (hstart : scan.parameterStart = some pre.length) :
    ((List.range' (pre.length + cur.length) (rest.length + 1)).foldl (scanStep value)
        scan).counts =
      scan.counts + pieceCounts ((closedPieces scan.quoting rest).modifyHead (cur ++ ·)) := by
  induction rest generalizing pre cur scan with
  | nil =>
    have hc : value[pre.length + cur.length]?.getD ';' = ';' := by
      rw [hvalue]
      simp
    rw [List.length_nil, List.range'_one, List.foldl_cons, List.foldl_nil]
    by_cases hplain : scan.quoting = .plain
    · rw [scanStep_separator hc hplain, hstart]
      simp only [startAt_counts, slice_eq hvalue, closedPieces, hplain, if_true,
        List.modifyHead_cons, List.append_nil]
      exact count_counts scan cur
    · -- the quoted string is still open, and the piece is dropped
      obtain ⟨q, e, hstep, -, -⟩ := scanStep_other hc hflags fun h => hplain h.1
      rw [hstep, flags_counts, closedPieces, if_neg hplain]
      exact (add_zero _).symm
  | cons c rest ih =>
    have hc : value[pre.length + cur.length]?.getD ';' = c := by
      rw [hvalue, ← List.append_assoc, List.getElem?_append_right (by simp)]
      simp
    rw [List.length_cons, List.range'_succ, List.foldl_cons, closedPieces]
    split_ifs with hsep
    · obtain ⟨hplain, rfl⟩ := hsep
      have hlen : (pre ++ (cur ++ [';'])).length = pre.length + cur.length + 1 := by
        simp [Nat.add_assoc]
      have hrun := ih (pre ++ (cur ++ [';'])) []
        ((scan.count cur).startAt (pre.length + cur.length + 1)) (by simp [hvalue])
        (startAt_nested _ (count_nested cur hflags)) (by rw [hlen]; rfl)
      rw [hlen, List.length_nil, Nat.add_zero, startAt_counts, startAt_quoting, count_quoting,
        hplain, modifyHead_nil_append, count_counts] at hrun
      rw [scanStep_separator hc hplain, hstart]
      simp only [slice_eq hvalue]
      rw [hrun, List.modifyHead_cons, List.append_nil,
        pieceCounts_cons cur (closedPieces .plain rest), add_assoc]
    · obtain ⟨q, e, hstep, hnested, hquoting⟩ := scanStep_other hc hflags hsep
      have hlen : (cur ++ [c]).length = cur.length + 1 := by simp
      have hrun := ih pre (cur ++ [c]) { scan with quoted := q, escaped := e }
        (by simp [hvalue]) hnested hstart
      rw [hlen, ← Nat.add_assoc, hquoting] at hrun
      have hhead : ∀ pieces : List (List Char), (pieces.modifyHead (c :: ·)).modifyHead (cur ++ ·) =
          pieces.modifyHead (cur ++ [c] ++ ·) := by
        intro pieces
        cases pieces <;> simp
      rw [hstep, hrun, hhead, flags_counts]

/-- The loop before the first semicolon. -/
theorem scan_value {value : List Char} (pre rest : List Char) (scan : Scan)
    (hvalue : value = pre ++ rest) (hflags : scan.Nested) (hstart : scan.parameterStart = none) :
    ((List.range' pre.length (rest.length + 1)).foldl (scanStep value) scan).counts =
      scan.counts + pieceCounts (closedPieces scan.quoting rest).tail := by
  induction rest generalizing pre scan with
  | nil =>
    have hc : value[pre.length]?.getD ';' = ';' := by
      rw [hvalue]
      simp
    have hnone : pieceCounts (closedPieces scan.quoting []).tail = 0 := by
      rw [closedPieces]
      split_ifs <;> rfl
    rw [List.length_nil, List.range'_one, List.foldl_cons, List.foldl_nil, hnone, add_zero]
    by_cases hplain : scan.quoting = .plain
    · rw [scanStep_separator hc hplain, hstart]
      rfl
    · obtain ⟨q, e, hstep, -, -⟩ := scanStep_other hc hflags fun h => hplain h.1
      rw [hstep]
      rfl
  | cons c rest ih =>
    have hc : value[pre.length]?.getD ';' = c := by
      rw [hvalue, List.getElem?_append_right (Nat.le_refl _)]
      simp
    rw [List.length_cons, List.range'_succ, List.foldl_cons, closedPieces]
    split_ifs with hsep
    · obtain ⟨hplain, rfl⟩ := hsep
      have hlen : (pre ++ [';']).length = pre.length + 1 := by simp
      have hnext : value = (pre ++ [';']) ++ ([] ++ rest) := by simp [hvalue]
      have hrun := scan_parameter (pre ++ [';']) [] rest (scan.startAt (pre.length + 1)) hnext
        (startAt_nested _ hflags) (by rw [hlen]; rfl)
      rw [hlen, List.length_nil, Nat.add_zero, startAt_counts, startAt_quoting, hplain,
        modifyHead_nil_append] at hrun
      rw [scanStep_separator hc hplain, hstart]
      exact hrun
    · obtain ⟨q, e, hstep, hnested, hquoting⟩ := scanStep_other hc hflags hsep
      have hrun := ih (pre ++ [c]) { scan with quoted := q, escaped := e } (by simp [hvalue])
        hnested hstart
      rw [List.length_append, List.length_singleton, hquoting] at hrun
      rw [hstep, hrun, List.tail_modifyHead, flags_counts]

/-- The loop counts the tags among the parameters. -/
theorem tagCounts_scan (value : List Char) :
    tagCounts value = pieceCounts (parameters value) := by
  have hrun := scan_value [] value Scan.init rfl (fun h => by cases h) rfl
  rw [List.length_nil, ← List.range_eq_range'] at hrun
  exact hrun.trans (zero_add _)

theorem tagCounts_single (value : List Char) : tagCounts value = (1, 1) ↔ SingleTags value := by
  rw [tagCounts_scan, pieceCounts, Prod.mk.injEq, SingleTags]

/-! ### The line loop -/

/-- The lines of a message, the request line first. -/
def messageLines (message : List Char) : List (List Char) :=
  (message.splitOnP isNewline).map stripCr

/-- The lines after the request line and before the first empty line. -/
def headerLines (message : List Char) : List (List Char) :=
  (messageLines message).tail.takeWhile fun line => line ≠ []

/-- Lines that continue a header field, each joined with one blank. -/
def continuation (lines : List (List Char)) : List Char :=
  (lines.takeWhile isFolded).flatMap fun line => ' ' :: trimLws line

/-- The value assembled from a line that is a Replaces header by itself. -/
def valueFrom : List (List Char) → List Char
  | [] => []
  | line :: lines => trimLws (afterColon line) ++ continuation lines

/-- The first of the lines is a Replaces header by itself. -/
def readsReplaces (field : List (List Char)) : Bool := field.head?.any namesReplaces

/-- Where the loop starts to assemble its value. -/
def checkedField (message : List Char) : Option (List (List Char)) :=
  (headerLines message).tails.find? readsReplaces

/-- The loop, on lines. -/
def readLines (value : List Char) (found : Bool) : List (List Char) → List Char
  | [] => value
  | line :: lines =>
    if found && isFolded line then readLines (value ++ ' ' :: trimLws line) found lines
    else if found then value
    else if namesReplaces line then readLines (trimLws (afterColon line)) true lines
    else readLines value false lines

theorem nextLine_line {l : List Char} {c : Char} (rest : List Char)
    (hl : ∀ x ∈ l, isNewline x = false) (hc : isNewline c = true) :
    nextLine (l ++ c :: rest) = stripCr l ∧ restLines (l ++ c :: rest) = rest := by
  have hdrop := removePrefix_line l c rest
  rw [removePrefix, if_pos (by simp)] at hdrop
  rw [nextLine, restLines, findFrom_zero rest hl hc]
  exact ⟨by simp, Option.some.inj hdrop⟩

theorem nextLine_last {l : List Char} (hl : ∀ x ∈ l, isNewline x = false) :
    nextLine l = stripCr l ∧ restLines l = [] := by
  have hnone : findFrom isNewline l 0 = none := findFrom_eq_none hl
  rw [nextLine, restLines, hnone]
  exact ⟨by simp, rfl⟩

theorem rawReplacesLoop_nil (value : List Char) (found firstLine : Bool) :
    rawReplacesLoop value found firstLine [] = value := by
  rw [rawReplacesLoop, dif_pos rfl]

/-- Behind the request line, the loop goes through the lines up to an empty one. -/
theorem rawReplacesLoop_lines (value : List Char) (found : Bool) (message : List Char) :
    rawReplacesLoop value found false message =
      readLines value found ((messageLines message).takeWhile fun line => line ≠ []) := by
  induction message using lines_induction (p := isNewline) generalizing value found with
  | last l hl =>
    obtain ⟨hnext, hrest⟩ := nextLine_last hl
    rw [messageLines, List.splitOnP_eq_singleton hl]
    by_cases hnil : l = []
    · subst hnil
      rw [rawReplacesLoop_nil]
      rfl
    · rw [rawReplacesLoop, dif_neg hnil, hnext, hrest]
      simp only [rawReplacesLoop_nil, List.map_cons, List.map_nil, List.takeWhile_cons]
      by_cases hline : stripCr l = []
      · simp [hline, readLines]
      · simp [hline, readLines]
  | more l c rest hl hc ih =>
    obtain ⟨hnext, hrest⟩ := nextLine_line rest hl hc
    rw [messageLines, List.splitOnP_append_cons_of_forall_mem hl c hc, rawReplacesLoop,
      dif_neg (by simp), hnext, hrest, List.map_cons, List.takeWhile_cons]
    by_cases hline : stripCr l = []
    · simp [hline, readLines]
    · simp only [ih, hline, readLines, messageLines, Bool.false_eq_true, if_false, ne_eq,
        not_false_eq_true, decide_true, if_true]

/-- Once the header is found, the lines that continue it are appended. -/
theorem readLines_found (value : List Char) (lines : List (List Char)) :
    readLines value true lines = value ++ continuation lines := by
  induction lines generalizing value with
  | nil => simp [readLines, continuation]
  | cons line lines ih =>
    rw [readLines]
    by_cases hfold : isFolded line = true
    · rw [if_pos (by simp [hfold]), ih]
      simp [continuation, hfold]
    · rw [if_neg (by simp [hfold]), if_pos rfl]
      simp [continuation, hfold]

theorem readLines_eq (lines : List (List Char)) :
    readLines [] false lines =
      ((lines.tails.find? readsReplaces).map valueFrom).getD [] := by
  induction lines with
  | nil => rfl
  | cons line lines ih =>
    rw [readLines, List.tails_cons]
    by_cases hname : namesReplaces line = true
    · simp [hname, readsReplaces, readLines_found, valueFrom]
    · simpa [hname, readsReplaces] using ih

/-- **What the line loop reads**: the value of the first line that is a Replaces header
by itself, with the lines that continue it. -/
theorem rawReplacesValue_eq (message : List Char) :
    rawReplacesValue message = ((checkedField message).map valueFrom).getD [] := by
  rw [checkedField, ← readLines_eq, headerLines, rawReplacesValue]
  -- the first of the lines is the request line
  induction message using lines_induction (p := isNewline) with
  | last l hl =>
    rw [messageLines, List.splitOnP_eq_singleton hl, rawReplacesLoop, (nextLine_last hl).2]
    simp [rawReplacesLoop_nil, readLines]
  | more l c rest hl hc _ =>
    rw [messageLines, List.splitOnP_append_cons_of_forall_mem hl c hc, rawReplacesLoop,
      dif_neg (by simp), if_pos rfl, (nextLine_line rest hl hc).2, rawReplacesLoop_lines]
    rfl

/-! ### The header PJSIP uses -/

/-- The text of the header field that starts with the first of the lines. -/
def fieldText : List (List Char) → List Char
  | [] => []
  | line :: lines => line.rdropWhile isLws ++ continuation lines

/-- The lines start a header field of the name Replaces. -/
def startsReplaces : List (List Char) → Bool
  | [] => false
  | line :: lines => !isFolded line && namesReplaces (fieldText (line :: lines))

/-- The lines from the first header field named Replaces on. -/
def firstReplaces (message : List Char) : Option (List (List Char)) :=
  (headerLines message).tails.find? startsReplaces

/-- The value of the header field that starts with the first of the lines. -/
def fieldValue (field : List (List Char)) : List Char := afterColon (fieldText field)

/-- The first header field named Replaces has one tag of each kind. -/
def HasSingleTags (message : List Char) : Prop :=
  ∃ field ∈ firstReplaces message, SingleTags (fieldValue field)

instance (message : List Char) : Decidable (HasSingleTags message) :=
  inferInstanceAs (Decidable (∃ field ∈ firstReplaces message, SingleTags (fieldValue field)))

/-- The first lines that read as a Replaces header, by their first line alone or as a
header field, do both: neither a line that continues another header field nor a name
that is folded from its colon comes first. -/
def InPlace (message : List Char) : Prop :=
  ∀ field ∈ (headerLines message).tails.find? fun field =>
      readsReplaces field || startsReplaces field,
    readsReplaces field = true ∧ startsReplaces field = true

/-- Two searches find the same exactly when what is found first by either is found by
both. -/
theorem find?_eq_find?_iff {α : Type} {p q : α → Bool} {l : List α} :
    l.find? p = l.find? q ↔
      ∀ x ∈ l.find? fun x => p x || q x, p x = true ∧ q x = true := by
  induction l with
  | nil => simp
  | cons a l ih =>
    cases hp : p a <;> cases hq : q a <;> simp [hp, hq, ih]
    -- one search stops here, and the other goes on behind
    · intro hfound
      simp [List.find?_some hfound] at hp
    · intro hfound
      simp [List.find?_some hfound.symm] at hq

theorem checkedField_eq_iff (message : List Char) :
    checkedField message = firstReplaces message ↔ InPlace message :=
  find?_eq_find?_iff

/-- Trimming the end of a text leaves what stands before a character that stays. -/
theorem rdropWhile_append_cons {p : Char → Bool} {c : Char} (hc : p c = false)
    (pre rest : List Char) :
    (pre ++ c :: rest).rdropWhile p = pre ++ c :: rest.rdropWhile p := by
  have hrev : (pre ++ c :: rest).reverse = rest.reverse ++ c :: pre.reverse := by simp
  rw [List.rdropWhile, List.rdropWhile, hrev, List.dropWhile_append]
  split_ifs with hempty
  · simp [List.isEmpty_iff.mp hempty, hc]
  · simp

/-- A text trimmed at its end alone has some blanks more. -/
theorem rdropWhile_eq_trimLws (value : List Char) :
    ∃ blanks, (∀ c ∈ blanks, isLws c = true) ∧
      value.rdropWhile isLws = blanks ++ trimLws value := by
  have hblanks : ∀ c ∈ value.takeWhile isLws, isLws c = true := fun c hc =>
    List.mem_takeWhile_imp hc
  have hrev : value.reverse =
      (value.dropWhile isLws).reverse ++ (value.takeWhile isLws).reverse := by
    rw [← List.reverse_append, List.takeWhile_append_dropWhile]
  rw [trimLws, List.rdropWhile, List.rdropWhile, hrev, List.dropWhile_append]
  split_ifs with hempty
  · refine ⟨[], by simp, ?_⟩
    have hall : (value.takeWhile isLws).reverse.dropWhile isLws = [] :=
      List.dropWhile_eq_nil_iff.mpr fun c hc => hblanks c (List.mem_reverse.mp hc)
    rw [hall, List.isEmpty_iff.mp hempty]
    rfl
  · exact ⟨value.takeWhile isLws, hblanks, by simp⟩

/-- A line that reads as a Replaces header has a colon. -/
theorem namesReplaces_colon {line : List Char} (h : namesReplaces line = true) :
    ∃ name value, line = name ++ ':' :: value ∧ ∀ c ∈ name, isColon c = false := by
  have hcolon : ∃ c ∈ line, isColon c = true := by
    by_contra hnone
    have hfind : findFrom isColon line 0 = none := findFrom_eq_none fun c hc => by
      simpa using fun h => hnone ⟨c, hc, h⟩
    rw [namesReplaces, hfind] at h
    cases h
  obtain ⟨c, hfind⟩ := Option.isSome_iff_exists.mp (List.find?_isSome.mpr hcolon)
  obtain ⟨hc, name, value, hline, hname⟩ := List.find?_eq_some_iff_append.mp hfind
  obtain rfl : c = ':' := by simpa [isColon] using hc
  exact ⟨name, value, hline, fun x hx => by simpa using hname x hx⟩

theorem afterColon_append {name : List Char} (hname : ∀ c ∈ name, isColon c = false)
    (value : List Char) : afterColon (name ++ ':' :: value) = value := by
  have hdrop := removePrefix_line name ':' value
  rw [removePrefix, if_pos (by simp)] at hdrop
  rw [afterColon, findFrom_zero value hname rfl]
  exact Option.some.inj hdrop

/-- The value that is read has the parameters of the header field. -/
theorem parameters_valueFrom {field : List (List Char)}
    (h : readsReplaces field = true) :
    parameters (valueFrom field) = parameters (fieldValue field) := by
  cases field with
  | nil => cases h
  | cons line lines =>
    obtain ⟨name, value, rfl, hname⟩ := namesReplaces_colon (by simpa [readsReplaces] using h)
    obtain ⟨blanks, hblanks, htrim⟩ := rdropWhile_eq_trimLws value
    rw [valueFrom, fieldValue, fieldText, afterColon_append hname,
      rdropWhile_append_cons (by decide), List.append_assoc, List.cons_append,
      afterColon_append hname, htrim, List.append_assoc, parameters_append hblanks]

/-- The answer is the one for the tags of the value that is read. -/
theorem replacesHasSingleDialogTags_iff (message : List Char) :
    replacesHasSingleDialogTags message = true ↔
      ∃ field ∈ checkedField message, SingleTags (fieldValue field) := by
  have hvalue : replacesHasSingleDialogTags message = true ↔
      SingleTags (rawReplacesValue message) := by
    rw [← tagCounts_single, replacesHasSingleDialogTags]
    by_cases hnil : rawReplacesValue message = []
    · rw [hnil]
      decide
    · simp [hnil]
  rw [hvalue, rawReplacesValue_eq]
  cases hchecked : checkedField message with
  | none =>
    have hnil : ¬SingleTags [] := by decide
    simpa using hnil
  | some field =>
    have hreads : readsReplaces field = true := List.find?_some hchecked
    simp [SingleTags, parameters_valueFrom hreads]

/-- **The tags that are checked.**  The header that is read is the first header field
named Replaces, and the answer says whether that has one tag of each kind, exactly when
what reads as a Replaces header first does so by its first line and as a header field. -/
theorem single_dialog_tags_iff (message : List Char) :
    rawReplacesValue message = ((checkedField message).map valueFrom).getD [] ∧
      ((checkedField message = firstReplaces message ∧
          (replacesHasSingleDialogTags message = true ↔ HasSingleTags message)) ↔
        InPlace message) := by
  refine ⟨rawReplacesValue_eq message, ?_⟩
  rw [← checkedField_eq_iff]
  constructor
  · rintro ⟨hfield, -⟩
    exact hfield
  · intro hfield
    refine ⟨hfield, ?_⟩
    rw [replacesHasSingleDialogTags_iff, HasSingleTags, hfield]

/-- A subject goes on with what looks like a Replaces header. -/
def foldedSubject : List Char :=
  ("INVITE sip:b SIP/2.0\r\nSubject: x\r\n Replaces: a;to-tag=1;from-tag=2\r\n" ++
    "Replaces: c;to-tag=1\r\n\r\n").toList

/-- The name of the header stands on a line of its own. -/
def foldedName : List Char :=
  "INVITE sip:b SIP/2.0\r\nReplaces\r\n : c;to-tag=1;from-tag=2\r\n\r\n".toList

/-- The tags of the subject are taken for the header's, and a header is not seen. -/
theorem folded_lines_misread :
    (replacesHasSingleDialogTags foldedSubject = true ∧ ¬HasSingleTags foldedSubject) ∧
      (¬replacesHasSingleDialogTags foldedName = true ∧ HasSingleTags foldedName) := by
  rw [replacesHasSingleDialogTags_iff, replacesHasSingleDialogTags_iff]
  decide +kernel

end ExtractUtils

end SbcEngine
