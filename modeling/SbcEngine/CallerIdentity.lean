/-
The caller's user on the outbound From header.

The user is searched in the printed From header, which starts with a display name of the
caller's choice.

* `extractFromUri`, `outboundFrom` — the source's path from one From header to the other;
* `readsUser_iff` — what the search finds behind a display name;
* `caller_identity_iff` — the outbound From header carries the caller's user exactly
  when the display name holds no delimiter, or the user itself between delimiters.
-/
import SbcEngine.OfferAnswerActions
import SbcEngine.UriText

namespace SbcEngine

namespace CallerIdentity

open ExtractUtils

/-- A From header with a user and no password; `rest` is what follows the `@`. -/
structure FromHeader where
  display : List Char
  user : List Char
  rest : List Char
  user_ne : user ≠ []

/-- What stands before the URI of a name-addr. -/
def opening (display : List Char) : List Char :=
  if display = [] then ['<'] else '"' :: (display ++ ['"', ' ', '<'])

def FromHeader.print (P : UriPrinter) (header : FromHeader) : List Char :=
  opening header.display ++
    (sipScheme ++ ':' :: (P.userText header.user ++ '@' :: (header.rest ++ ['>'])))

/-- `extract_from_uri`; a text that does not fit is left empty. -/
def extractFromUri (P : UriPrinter) (header : FromHeader) : List Char :=
  if P.fits (header.print P) then header.print P else []

/-- The address of the engine. -/
structure PjsipConfig where
  localIp : List Char
  sipPort : ℕ

def PjsipConfig.callerFacingFromUri (config : PjsipConfig) (displayName user : List Char) :
    List Char :=
  let uri := ['<', 's', 'i', 'p', ':'] ++
    (user ++ '@' :: (config.localIp ++ ':' :: (Nat.toDigits 10 config.sipPort ++ ['>'])))
  if displayName = [] then uri else '"' :: (displayName ++ ['"', ' '] ++ uri)

/-- The From header of the outbound leg; without a user the leg is refused. -/
def outboundFrom (config : PjsipConfig) (displayName callerUri : List Char) :
    Option (List Char) :=
  let callerUser := extractUriUser callerUri
  if callerUser = [] then none
  else some (config.callerFacingFromUri displayName callerUser)

/-! ### What the search finds -/

/-- The display name itself holds the text between its first colon and its first `@`. -/
def Shows (display user : List Char) : Prop :=
  ∃ before after, display = before ++ ':' :: (user ++ '@' :: after) ∧ Clean before ∧ '@' ∉ user

theorem opening_clean {display : List Char} (h : Clean display) : Clean (opening display) := by
  rw [opening]
  split_ifs
  · decide
  · have hend : Clean ['"', ' ', '<'] := by decide
    intro c hc
    rcases List.mem_cons.mp hc with rfl | hc
    · decide
    · exact (h.append hend) c hc

/-- A quoted display name, taken apart. -/
theorem opening_append (before rest : List Char) (c : Char) :
    opening (before ++ c :: rest) = ('"' :: before) ++ c :: (rest ++ ['"', ' ', '<']) := by
  rw [opening, if_neg (by simp)]
  simp

theorem quote_clean {before : List Char} (h : Clean before) : Clean ('"' :: before) :=
  Clean.append (s := ['"']) (by decide) h

/-- Without delimiters in the display name, the user is the one of the URI. -/
theorem extractUriUser_clean {P : UriPrinter} {header : FromHeader} (h : Clean header.display) :
    extractUriUser (header.print P) = P.userText header.user := by
  rw [FromHeader.print, ← List.append_assoc]
  exact extractUriUser_split ((opening_clean h).append sipScheme_clean) (userText_at P header.user)

/-- A text between delimiters of the display name is taken for the user. -/
theorem extractUriUser_shown {P : UriPrinter} {header : FromHeader} {user : List Char}
    (h : Shows header.display user) : extractUriUser (header.print P) = user := by
  obtain ⟨before, after, hdisplay, hbefore, hfree⟩ := h
  rw [FromHeader.print, hdisplay, opening_append]
  simp only [List.append_assoc, List.cons_append]
  exact extractUriUser_split (quote_clean hbefore) hfree

/-- **What is read for the user.**  A text no longer than the printed user is read if it
is that, behind a display name without delimiters, or if the display name shows it. -/
theorem readsUser_iff {P : UriPrinter} {header : FromHeader} {user : List Char} (hne : user ≠ [])
    (hlen : user.length ≤ (P.userText header.user).length) :
    extractUriUser (header.print P) = user ↔
      (Clean header.display ∧ P.userText header.user = user) ∨ Shows header.display user := by
  constructor
  · intro hread
    rcases clean_or_split header.display with hclean | ⟨before, c, after, hdisplay, hbefore, hc⟩
    · exact .inl ⟨hclean, (extractUriUser_clean hclean).symm.trans hread⟩
    · rcases hc with rfl | rfl
      · by_cases hat : '@' ∈ after
        · -- the display name holds both delimiters
          obtain ⟨shown, rest, rfl, hfree⟩ := List.eq_append_cons_of_mem hat
          have hshows : Shows header.display shown := ⟨before, rest, hdisplay, hbefore, hfree⟩
          rw [extractUriUser_shown hshows] at hread
          exact .inr (hread ▸ hshows)
        · -- the text up to the `@` of the URI is too long
          have hlong : extractUriUser (header.print P) =
              after ++ ['"', ' ', '<'] ++ sipScheme ++ ':' :: P.userText header.user := by
            have hfree : '@' ∉ after ++ ['"', ' ', '<'] ++ sipScheme ++
                ':' :: P.userText header.user := by
              simpa [sipScheme, hat] using userText_at P header.user
            have htext : header.print P = ('"' :: before) ++ ':' :: ((after ++ ['"', ' ', '<'] ++
                sipScheme ++ ':' :: P.userText header.user) ++ '@' :: (header.rest ++ ['>'])) := by
              rw [FromHeader.print, hdisplay, opening_append]
              simp
            rw [htext]
            exact extractUriUser_split (quote_clean hbefore) hfree
          have htotal := congrArg List.length (hlong.symm.trans hread)
          simp only [List.length_append, List.length_cons] at htotal
          omega
      · have hnone : extractUriUser (header.print P) = [] := by
          rw [FromHeader.print, hdisplay, opening_append, List.append_assoc]
          exact extractUriUser_at_first (quote_clean hbefore)
        exact absurd (hread.symm.trans hnone) hne
  · rintro (⟨hclean, rfl⟩ | hshows)
    · exact extractUriUser_clean hclean
    · exact extractUriUser_shown hshows

/-- The outbound header tells which user it was made with. -/
theorem callerFacingFromUri_inj (config : PjsipConfig) (displayName : List Char)
    {user user' : List Char} :
    config.callerFacingFromUri displayName user = config.callerFacingFromUri displayName user' ↔
      user = user' := by
  simp only [PjsipConfig.callerFacingFromUri]
  split_ifs <;> simp

theorem outboundFrom_iff (config : PjsipConfig) {displayName callerUri user : List Char}
    (hne : user ≠ []) :
    outboundFrom config displayName callerUri =
        some (config.callerFacingFromUri displayName user) ↔
      extractUriUser callerUri = user := by
  simp only [outboundFrom]
  split_ifs with hnil
  · rw [hnil]
    exact iff_of_false (by simp) fun h => hne h.symm
  · rw [Option.some.injEq, callerFacingFromUri_inj]

/-- A header without a user is the leg that is refused. -/
theorem createInviteSession_refused {env : Env} {callerUri : List Char} (config : PjsipConfig)
    (displayName : List Char) (hreads : env.routing.extractUriUser env.callerUri = readUser env.callerUri)
    (huri : env.callerUri = String.ofList callerUri)
    (h : outboundFrom config displayName callerUri = none) (data : OfferAnswerData) (c : Core) :
    OfferAnswerActions.createInviteSession env data c = (c, false) := by
  have hnil : extractUriUser callerUri = [] := by
    simpa [outboundFrom] using h
  have hempty : env.routing.extractUriUser env.callerUri = "" := by
    rw [hreads, readUser, huri, String.toList_ofList, hnil]
  rw [OfferAnswerActions.createInviteSession, if_pos hempty]

/-! ### The caller's identity -/

theorem extractFromUri_user {P : UriPrinter} {header : FromHeader} {user : List Char}
    (hne : user ≠ []) :
    extractUriUser (extractFromUri P header) = user ↔
      P.fits (header.print P) = true ∧ extractUriUser (header.print P) = user := by
  rw [extractFromUri]
  split_ifs with hfits
  · simp [hfits]
  · exact iff_of_false (fun h => hne h.symm) fun h => hfits h.1

/-- The user is read off the header and goes into the outbound one. -/
def Carries (P : UriPrinter) (config : PjsipConfig) (header : FromHeader) (user : List Char) : Prop :=
  extractUriUser (extractFromUri P header) = user ∧
    outboundFrom config header.display (extractFromUri P header) =
      some (config.callerFacingFromUri header.display user)

theorem carries_iff {P : UriPrinter} (config : PjsipConfig) {header : FromHeader} {user : List Char}
    (hne : user ≠ []) (hlen : user.length ≤ (P.userText header.user).length) :
    Carries P config header user ↔ P.fits (header.print P) = true ∧
      ((Clean header.display ∧ P.userText header.user = user) ∨ Shows header.display user) := by
  rw [← readsUser_iff hne hlen, ← extractFromUri_user hne]
  exact and_iff_left_of_imp (outboundFrom_iff config hne).mpr

/-- **The caller's identity.**  The user that is read is the one written in the URI, and
the outbound header carries it, exactly when the text fits its buffer and the display
name has no delimiter or shows that very user.  It is the user behind the escapes exactly
when there is none as well, or the display name shows that. -/
theorem caller_identity_iff (P : UriPrinter) (config : PjsipConfig) (header : FromHeader) :
    (Carries P config header (P.userText header.user) ↔
      P.fits (header.print P) = true ∧
        (Clean header.display ∨ Shows header.display (P.userText header.user))) ∧
    (Carries P config header header.user ↔
      P.fits (header.print P) = true ∧
        ((Clean header.display ∧ ∀ c ∈ header.user, P.plain c = true) ∨
          Shows header.display header.user)) := by
  have hstored := carries_iff config header.user_ne (userText_length_le P header.user)
  rw [userText_eq_iff] at hstored
  refine ⟨?_, hstored⟩
  rw [carries_iff config (userText_ne header.user_ne) (Nat.le_refl _)]
  simp

/-- Alice, under a name of her choice. -/
def aliceAs (display : String) : FromHeader where
  display := display.toList
  user := "alice".toList
  rest := "sbc.local".toList
  user_ne := by decide

def engine : PjsipConfig := ⟨"10.0.0.9".toList, 5060⟩

/-- The caller's name gives her another user, or has her call refused. -/
theorem display_name_forges :
    outboundFrom engine "x:bob@y".toList (extractFromUri percentPrinter (aliceAs "x:bob@y")) =
        some (engine.callerFacingFromUri "x:bob@y".toList "bob".toList) ∧
      outboundFrom engine "a@b".toList (extractFromUri percentPrinter (aliceAs "a@b")) = none := by
  decide +kernel

end CallerIdentity

end SbcEngine
