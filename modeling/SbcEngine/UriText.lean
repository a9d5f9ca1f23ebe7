/-
SIP URIs as text: what PJSIP prints, and what the engine reads off it.

Routing and the outbound From header do not use the parsed URI but its printed text,
and search that for delimiters.

* `extractUriUser`, `extractUriHost` — the source's searches;
* `UriPrinter`, `SipUri.print` — the printed text, as far as the searches depend on it;
* `extractUriUser_eq_iff` — what the search for the user finds, over all texts;
* `extractUriHost_print` — the host is found in every printed URI;
* `userText_eq_iff` — a printed user is the user exactly when nothing is escaped.

Design notes: a character is one byte.  Which characters PJSIP escapes in a user, how it
writes them and the password, and which texts fit its buffer are left open.
-/
import Mathlib.Data.List.Basic
import Mathlib.Tactic.Common
import SbcEngine.TextView

namespace SbcEngine

namespace ExtractUtils

open TextView

/-! ### The readers -/

def extractUriUser (uri : List Char) : List Char :=
  match findFrom (· == ':') uri 0, findFrom (· == '@') uri 0 with
  | some schemeEnd, some atPos =>
    if atPos ≤ schemeEnd then []
    else (uri.drop (schemeEnd + 1)).take (atPos - schemeEnd - 1)
  | _, _ => []

/-- Behind the `@`, or behind the scheme when there is none. -/
def hostStart (uri : List Char) : Option ℕ :=
  match findFrom (· == '@') uri 0 with
  | some atPos => some (atPos + 1)
  | none => (findFrom (· == ':') uri 0).map (· + 1)

def isHostEnd (c : Char) : Bool := c == ':' || c == ';' || c == '?'

/-- The end of a host in brackets. -/
def bracketClose (uri : List Char) (start : ℕ) : Option ℕ :=
  if uri[start]? = some '[' then findFrom (· == ']') uri (start + 1) else none

def extractUriHost (uri : List Char) : List Char :=
  match hostStart uri with
  | none => []
  | some start =>
    match bracketClose uri start with
    | some close => (uri.drop (start + 1)).take (close - start - 1)
    | none => (uri.drop start).take ((findFrom isHostEnd uri start).getD uri.length - start)

def readUser (uri : String) : String := String.ofList (extractUriUser uri.toList)

def readHost (uri : String) : String := String.ofList (extractUriHost uri.toList)

/-! ### What the searches find -/

/-- Neither delimiter of the user part occurs. -/
def Clean (text : List Char) : Prop := ∀ c ∈ text, c ≠ ':' ∧ c ≠ '@'

instance (text : List Char) : Decidable (Clean text) :=
  List.decidableBAll (fun c => c ≠ ':' ∧ c ≠ '@') text

theorem Clean.append {s t : List Char} (hs : Clean s) (ht : Clean t) : Clean (s ++ t) := by
  intro c hc
  rcases List.mem_append.mp hc with hc | hc
  · exact hs c hc
  · exact ht c hc

/-- The first delimiter of a text. -/
theorem clean_or_split (text : List Char) :
    Clean text ∨ ∃ pre c rest, text = pre ++ c :: rest ∧ Clean pre ∧ (c = ':' ∨ c = '@') := by
  by_cases h : ∃ c ∈ text, (c == ':' || c == '@') = true
  · obtain ⟨c, hfind⟩ := Option.isSome_iff_exists.mp (List.find?_isSome.mpr h)
    obtain ⟨hc, pre, rest, htext, hpre⟩ := List.find?_eq_some_iff_append.mp hfind
    exact .inr ⟨pre, c, rest, htext, fun x hx => by simpa using hpre x hx, by simpa using hc⟩
  · exact .inl fun c hc => by simpa using fun h' => h ⟨c, hc, h'⟩

/-- The text between the first colon and the first `@`. -/
theorem extractUriUser_split {scheme user rest : List Char} (hscheme : Clean scheme)
    (huser : '@' ∉ user) : extractUriUser (scheme ++ ':' :: (user ++ '@' :: rest)) = user := by
  have hcolon : findFrom (· == ':') (scheme ++ ':' :: (user ++ '@' :: rest)) 0 =
      some scheme.length :=
    findFrom_zero _ (fun c hc => by simpa using (hscheme c hc).1) (by simp)
  have hat : findFrom (· == '@') (scheme ++ ':' :: (user ++ '@' :: rest)) 0 =
      some (scheme.length + 1 + user.length) := by
    have hfree : ∀ c ∈ scheme ++ ':' :: user, (c == '@') = false := by
      intro c hc
      rw [List.mem_append, List.mem_cons] at hc
      rcases hc with hc | rfl | hc
      · simpa using (hscheme c hc).2
      · rfl
      · exact beq_eq_false_iff_ne.mpr fun h => huser (h ▸ hc)
    have hsplit := findFrom_zero rest hfree (beq_self_eq_true '@')
    simpa [Nat.add_assoc, Nat.add_comm 1] using hsplit
  have hdrop : (scheme ++ ':' :: (user ++ '@' :: rest)).drop (scheme.length + 1) =
      user ++ '@' :: rest := by
    rw [← List.singleton_append, ← List.append_assoc]
    exact List.drop_left' (by simp)
  rw [extractUriUser, hcolon, hat]
  simp only
  rw [if_neg (by omega), hdrop, show scheme.length + 1 + user.length - scheme.length - 1 =
    user.length by omega, List.take_left]

/-- Without an `@` there is no user. -/
theorem extractUriUser_none {uri : List Char} (h : '@' ∉ uri) : extractUriUser uri = [] := by
  have hat : findFrom (· == '@') uri 0 = none :=
    findFrom_eq_none fun c hc => beq_eq_false_iff_ne.mpr fun hc' => h (hc' ▸ hc)
  rw [extractUriUser, hat]
  cases findFrom (· == ':') uri 0 <;> rfl

/-- An `@` before the first colon is not the delimiter of a user. -/
theorem extractUriUser_at_first {pre rest : List Char} (hpre : Clean pre) :
    extractUriUser (pre ++ '@' :: rest) = [] := by
  have hat : findFrom (· == '@') (pre ++ '@' :: rest) 0 = some pre.length :=
    findFrom_zero rest (fun c hc => by simpa using (hpre c hc).2) (by simp)
  rw [extractUriUser, hat]
  cases hcolon : findFrom (· == ':') (pre ++ '@' :: rest) 0 with
  | none => rfl
  | some schemeEnd =>
    rw [findFrom_skip _ fun c hc => by simpa using (hpre c hc).1] at hcolon
    simp [(findFrom_lt hcolon).1]

/-- **What the search for the user finds**: what stands between the first colon and the
first `@` of a text, if the colon comes first. -/
theorem extractUriUser_eq_iff {uri user : List Char} (huser : user ≠ []) :
    extractUriUser uri = user ↔
      ∃ scheme rest, uri = scheme ++ ':' :: (user ++ '@' :: rest) ∧ Clean scheme ∧ '@' ∉ user := by
  constructor
  · rintro rfl
    rcases clean_or_split uri with hclean | ⟨scheme, c, text, rfl, hscheme, rfl | rfl⟩
    · exact absurd (extractUriUser_none fun h => (hclean '@' h).2 rfl) huser
    · -- the text behind the first colon, up to an `@`
      by_cases hat : '@' ∈ text
      · obtain ⟨found, rest, rfl, hfound⟩ := List.eq_append_cons_of_mem hat
        rw [extractUriUser_split hscheme hfound]
        exact ⟨scheme, rest, rfl, hscheme, hfound⟩
      · refine absurd (extractUriUser_none ?_) huser
        rw [List.mem_append, List.mem_cons]
        rintro (h | h | h)
        · exact (hscheme '@' h).2 rfl
        · cases h
        · exact hat h
    · exact absurd (extractUriUser_at_first hscheme) huser
  · rintro ⟨scheme, rest, rfl, hscheme, hfree⟩
    exact extractUriUser_split hscheme hfree

/-- A host in brackets, behind the text that leads to it. -/
theorem extractUriHost_bracketed {pre host tail : List Char}
    (hstart : hostStart (pre ++ '[' :: (host ++ ']' :: tail)) = some pre.length)
    (hhost : ']' ∉ host) : extractUriHost (pre ++ '[' :: (host ++ ']' :: tail)) = host := by
  have hassoc : pre ++ '[' :: (host ++ ']' :: tail) = (pre ++ ['[']) ++ (host ++ ']' :: tail) := by
    simp
  have hlen : (pre ++ ['[']).length = pre.length + 1 := by simp
  have hopen : (pre ++ '[' :: (host ++ ']' :: tail))[pre.length]? = some '[' := by simp
  have hclose : findFrom (· == ']') (pre ++ '[' :: (host ++ ']' :: tail)) (pre.length + 1) =
      some (pre.length + 1 + host.length) := by
    rw [hassoc, ← hlen]
    exact findFrom_append tail (fun c hc => beq_eq_false_iff_ne.mpr fun h => hhost (h ▸ hc))
      (beq_self_eq_true ']')
  have hdrop : (pre ++ '[' :: (host ++ ']' :: tail)).drop (pre.length + 1) = host ++ ']' :: tail := by
    rw [hassoc, ← hlen, List.drop_left]
  rw [extractUriHost, hstart]
  simp only [bracketClose, if_pos hopen, hclose, hdrop]
  rw [show pre.length + 1 + host.length - pre.length - 1 = host.length by omega, List.take_left]

/-- A host without brackets ends where a port, a parameter or a header starts. -/
theorem extractUriHost_plain {pre host tail : List Char}
    (hstart : hostStart (pre ++ (host ++ tail)) = some pre.length)
    (hhost : ∀ c ∈ host, isHostEnd c = false) (hopen : '[' ∉ host)
    (htail : ∀ c ∈ tail.head?, isHostEnd c = true) :
    extractUriHost (pre ++ (host ++ tail)) = host := by
  have hbracket : (pre ++ (host ++ tail))[pre.length]? ≠ some '[' := by
    rw [List.getElem?_append_right (Nat.le_refl _), Nat.sub_self]
    cases host with
    | nil =>
      cases tail with
      | nil => simp
      | cons c tail =>
        have hc := htail c rfl
        rintro h
        obtain rfl : c = '[' := by simpa using h
        cases hc
    | cons c host =>
      intro h
      exact hopen (by simp at h; simp [h])
  have hend : (findFrom isHostEnd (pre ++ (host ++ tail)) pre.length).getD
      (pre ++ (host ++ tail)).length - pre.length = host.length := by
    cases tail with
    | nil =>
      rw [List.append_nil, findFrom_append_eq_none pre hhost]
      simp
    | cons c tail =>
      rw [findFrom_append tail hhost (htail c rfl)]
      simp
  rw [extractUriHost, hstart]
  simp only [bracketClose, if_neg hbracket, hend, List.drop_left, List.take_left]

/-! ### Printed URIs -/

/-- What the printed text depends on, besides the URI. -/
structure UriPrinter where
  /-- The character stands for itself in a user. -/
  plain : Char → Bool
  plain_delimiters : plain '@' = false ∧ plain ':' = false
  /-- What is written for any other character of a user. -/
  escape : Char → List Char
  one_lt_escape : ∀ c, 1 < (escape c).length
  escape_clean : ∀ c, Clean (escape c)
  passwordText : List Char → List Char
  passwordText_at : ∀ password, '@' ∉ passwordText password
  /-- The text fits the buffer it is printed into. -/
  fits : List Char → Bool

/-- The host as it is stored; an IPv6 address is printed in brackets. -/
structure Host where
  text : List Char
  ipv6 : Bool
  text_ne : text ≠ []
  text_free : '@' ∉ text ∧ '[' ∉ text ∧ ']' ∉ text
  name_free : ipv6 = false → ∀ c ∈ text, isHostEnd c = false

structure SipUri where
  user : List Char
  password : List Char
  host : Host
  port : Option ℕ
  params : List Char
  headers : List Char
  rest_at : '@' ∉ params ∧ '@' ∉ headers

def UriPrinter.userText (P : UriPrinter) (user : List Char) : List Char :=
  user.flatMap fun c => if P.plain c then [c] else P.escape c

/-- `user[:password]@`, if there is a user. -/
def SipUri.userInfo (P : UriPrinter) (uri : SipUri) : List Char :=
  if uri.user = [] then []
  else if uri.password = [] then P.userText uri.user ++ ['@']
  else P.userText uri.user ++ ':' :: (P.passwordText uri.password ++ ['@'])

def Host.print (host : Host) : List Char :=
  if host.ipv6 then '[' :: (host.text ++ [']']) else host.text

/-- `[:port][;params][?headers]`. -/
def SipUri.tail (uri : SipUri) : List Char :=
  (uri.port.elim [] fun port => ':' :: Nat.toDigits 10 port) ++
    (if uri.params = [] then [] else ';' :: uri.params) ++
    (if uri.headers = [] then [] else '?' :: uri.headers)

def sipScheme : List Char := ['s', 'i', 'p']

theorem sipScheme_clean : Clean sipScheme := by decide

def SipUri.print (P : UriPrinter) (uri : SipUri) : List Char :=
  sipScheme ++ ':' :: (uri.userInfo P ++ (uri.host.print ++ uri.tail))

/-- `extract_request_uri`; a text that does not fit is left empty. -/
def extractRequestUri (P : UriPrinter) (uri : SipUri) : List Char :=
  if P.fits (uri.print P) then uri.print P else []

/-! ### Reading a printed URI -/

theorem userText_cons (P : UriPrinter) (c : Char) (user : List Char) :
    P.userText (c :: user) = (if P.plain c then [c] else P.escape c) ++ P.userText user := rfl

theorem userText_clean (P : UriPrinter) (user : List Char) : Clean (P.userText user) := by
  induction user with
  | nil => simp [Clean, UriPrinter.userText]
  | cons c user ih =>
    rw [userText_cons]
    refine Clean.append ?_ ih
    split_ifs with hplain
    · intro x hx
      obtain rfl := List.mem_singleton.mp hx
      constructor <;> rintro rfl
      · rw [P.plain_delimiters.2] at hplain
        cases hplain
      · rw [P.plain_delimiters.1] at hplain
        cases hplain
    · exact P.escape_clean c

theorem userText_at (P : UriPrinter) (user : List Char) : '@' ∉ P.userText user :=
  fun h => (userText_clean P user '@' h).2 rfl

theorem userText_length_le (P : UriPrinter) (user : List Char) :
    user.length ≤ (P.userText user).length := by
  induction user with
  | nil => exact Nat.zero_le _
  | cons c user ih =>
    have hone := P.one_lt_escape c
    rw [userText_cons, List.length_append, List.length_cons]
    split_ifs <;> simp <;> omega

theorem userText_ne {P : UriPrinter} {user : List Char} (h : user ≠ []) :
    P.userText user ≠ [] := by
  intro hnil
  have hlen := userText_length_le P user
  rw [hnil] at hlen
  exact h (List.length_eq_zero_iff.mp (Nat.le_zero.mp hlen))

/-- A user is printed as it is exactly when none of its characters is escaped. -/
theorem userText_eq_iff (P : UriPrinter) (user : List Char) :
    P.userText user = user ↔ ∀ c ∈ user, P.plain c = true := by
  induction user with
  | nil => simp [UriPrinter.userText]
  | cons c user ih =>
    rw [userText_cons, List.forall_mem_cons, ← ih]
    by_cases hplain : P.plain c = true
    · simp [hplain]
    · -- an escape makes the text longer
      have hone := P.one_lt_escape c
      have hlen := userText_length_le P user
      refine iff_of_false (fun h => ?_) fun h => hplain h.1
      have htotal := congrArg List.length h
      simp [hplain] at htotal
      omega

theorem tail_head (uri : SipUri) : ∀ c ∈ uri.tail.head?, isHostEnd c = true := by
  intro c hc
  rw [SipUri.tail] at hc
  cases hport : uri.port with
  | some port =>
    obtain rfl : ':' = c := by simpa [hport] using hc
    rfl
  | none =>
    by_cases hparams : uri.params = []
    · by_cases hheaders : uri.headers = []
      · simp [hport, hparams, hheaders] at hc
      · obtain rfl : '?' = c := by simpa [hport, hparams, hheaders] using hc
        rfl
    · obtain rfl : ';' = c := by simpa [hport, hparams] using hc
      rfl

theorem tail_at (uri : SipUri) : '@' ∉ uri.tail := by
  have hport : '@' ∉ uri.port.elim [] fun port => ':' :: Nat.toDigits 10 port := by
    cases uri.port with
    | none => simp
    | some port =>
      intro h
      rw [Option.elim_some, List.mem_cons] at h
      rcases h with h | h
      · cases h
      · have hdigit := Nat.isDigit_of_mem_toDigits (by omega) (by omega) h
        simp at hdigit
  rw [SipUri.tail, List.mem_append, List.mem_append]
  rintro ((h | h) | h)
  · exact hport h
  · split_ifs at h
    · cases h
    · exact uri.rest_at.1 (by simpa using h)
  · split_ifs at h
    · cases h
    · exact uri.rest_at.2 (by simpa using h)

theorem host_print_at (host : Host) : '@' ∉ host.print := by
  have htext := host.text_free.1
  rw [Host.print]
  split_ifs
  · simpa using htext
  · exact htext

/-- What stands behind the user part. -/
theorem rest_at (uri : SipUri) : '@' ∉ uri.host.print ++ uri.tail := by
  rw [List.mem_append]
  rintro (h | h)
  · exact host_print_at uri.host h
  · exact tail_at uri h

/-- The user part up to its `@`. -/
def SipUri.credentials (P : UriPrinter) (uri : SipUri) : List Char :=
  P.userText uri.user ++ if uri.password = [] then [] else ':' :: P.passwordText uri.password

theorem credentials_at (P : UriPrinter) (uri : SipUri) : '@' ∉ uri.credentials P := by
  rw [SipUri.credentials, List.mem_append]
  rintro (h | h)
  · exact userText_at P uri.user h
  · split_ifs at h
    · cases h
    · exact P.passwordText_at uri.password (by simpa using h)

theorem print_user {P : UriPrinter} {uri : SipUri} (h : uri.user ≠ []) :
    uri.print P =
      sipScheme ++ ':' :: (uri.credentials P ++ '@' :: (uri.host.print ++ uri.tail)) := by
  rw [SipUri.print, SipUri.userInfo, if_neg h, SipUri.credentials]
  split_ifs <;> simp

theorem print_no_user {P : UriPrinter} {uri : SipUri} (h : uri.user = []) :
    uri.print P = sipScheme ++ ':' :: (uri.host.print ++ uri.tail) := by
  rw [SipUri.print, SipUri.userInfo, if_pos h, List.nil_append]

/-- The user that is read: as it is printed, and with the password behind it. -/
theorem extractUriUser_print (P : UriPrinter) (uri : SipUri) :
    extractUriUser (uri.print P) = if uri.user = [] then [] else uri.credentials P := by
  split_ifs with huser
  · rw [print_no_user huser]
    refine extractUriUser_none ?_
    simpa [sipScheme] using rest_at uri
  · rw [print_user huser]
    exact extractUriUser_split sipScheme_clean (credentials_at P uri)

/-- Where the host starts, behind the user part if there is one. -/
theorem hostStart_print (P : UriPrinter) (uri : SipUri) :
    ∃ pre, uri.print P = pre ++ (uri.host.print ++ uri.tail) ∧
      hostStart (uri.print P) = some pre.length := by
  by_cases huser : uri.user = []
  · rw [print_no_user huser]
    refine ⟨['s', 'i', 'p', ':'], rfl, ?_⟩
    have hat : findFrom (· == '@') (sipScheme ++ ':' :: (uri.host.print ++ uri.tail)) 0 =
        none := by
      refine findFrom_eq_none fun c hc => beq_eq_false_iff_ne.mpr ?_
      rintro rfl
      exact rest_at uri (by simpa [sipScheme] using hc)
    have hcolon := findFrom_zero (p := (· == ':')) (l := sipScheme)
      (uri.host.print ++ uri.tail) (by simp [sipScheme]) (beq_self_eq_true ':')
    rw [hostStart, hat]
    simp only [hcolon]
    rfl
  · rw [print_user huser]
    have hfree : ∀ c ∈ sipScheme ++ ':' :: uri.credentials P, (c == '@') = false := by
      intro c hc
      refine beq_eq_false_iff_ne.mpr ?_
      rintro rfl
      exact credentials_at P uri (by simpa [sipScheme] using hc)
    have hat := findFrom_zero (uri.host.print ++ uri.tail) hfree (beq_self_eq_true '@')
    refine ⟨sipScheme ++ ':' :: uri.credentials P ++ ['@'], by simp, ?_⟩
    rw [List.append_assoc, List.cons_append] at hat
    rw [hostStart, hat]
    simp [Nat.add_assoc]

/-- **The host that is read** is the host that is stored. -/
theorem extractUriHost_print (P : UriPrinter) (uri : SipUri) :
    extractUriHost (uri.print P) = uri.host.text := by
  obtain ⟨pre, hprint, hstart⟩ := hostStart_print P uri
  rw [hprint] at hstart ⊢
  cases hipv6 : uri.host.ipv6 with
  | true =>
    have hbrackets : uri.host.print ++ uri.tail = '[' :: (uri.host.text ++ ']' :: uri.tail) := by
      simp [Host.print, hipv6]
    rw [hbrackets] at hstart ⊢
    exact extractUriHost_bracketed hstart uri.host.text_free.2.2
  | false =>
    have hname : uri.host.print = uri.host.text := by simp [Host.print, hipv6]
    rw [hname] at hstart ⊢
    exact extractUriHost_plain hstart (uri.host.name_free hipv6) uri.host.text_free.2.1
      (tail_head uri)

/-! ### A printer -/

def percentByte (c : Char) : List Char :=
  ['%', Nat.digitChar (c.toNat / 16 % 16), Nat.digitChar (c.toNat % 16)]

theorem percentByte_clean (c : Char) : Clean (percentByte c) := by
  have hdigit : ∀ n < 16, Nat.digitChar n ≠ ':' ∧ Nat.digitChar n ≠ '@' := by decide
  intro x hx
  obtain rfl | rfl | rfl : x = '%' ∨ x = Nat.digitChar (c.toNat / 16 % 16) ∨
      x = Nat.digitChar (c.toNat % 16) := by simpa [percentByte] using hx
  · decide
  · exact hdigit _ (Nat.mod_lt _ (by omega))
  · exact hdigit _ (Nat.mod_lt _ (by omega))

/-- The characters a user may hold, percent escapes for the others, and a buffer of 256
bytes. -/
def percentPrinter : UriPrinter where
  plain c := c.isAlphanum || ['-', '_', '.', '+', ';', '?', '/'].contains c
  plain_delimiters := by decide
  escape := percentByte
  one_lt_escape c := by simp [percentByte]
  escape_clean := percentByte_clean
  passwordText password :=
    password.flatMap fun c => if c.isAlphanum then [c] else percentByte c
  passwordText_at password h := by
    obtain ⟨c, -, hc⟩ := List.mem_flatMap.mp h
    split_ifs at hc with halnum
    · obtain rfl := List.mem_singleton.mp hc
      cases halnum
    · exact (percentByte_clean c '@' hc).2 rfl
  fits text := text.length < 256

end ExtractUtils

end SbcEngine
