import EventConsole.Client.Headers
import EventConsole.Demo.Server
import EventConsole.Proofs.Text.Base64
import EventConsole.Proofs.Text.Decimal
import Mathlib.Data.List.TakeDrop
import Mathlib.Data.List.TakeWhile

/-!
Contract: the server reads from a header exactly the credentials that the
console writes into one.

Owns: splitting at the first mark, the Base64 form against user and password,
the headers that read as a login, and which logins a server admits.

Does not own: Base64 and UTF-8 themselves.
-/

namespace EventConsole.Demo

/-! ### Splitting -/

theorem span_of_notMem {mark : Char} {before : List Char} (absent : mark ∉ before)
    (rest : List Char) :
    (before ++ mark :: rest).span (· ≠ mark) = (before, mark :: rest) := by
  have holds : ∀ c ∈ before, decide (c ≠ mark) = true := fun c member =>
    decide_eq_true fun isMark => absent (isMark ▸ member)
  rw [List.span_eq_takeWhile_dropWhile, List.takeWhile_append_of_pos holds,
    List.dropWhile_append_of_pos holds]
  simp

namespace Login

theorem splitFirst?_eq_some_iff {mark : Char} {text before after : List Char} :
    splitFirst? mark text = some (before, after) ↔
      mark ∉ before ∧ text = before ++ mark :: after := by
  constructor
  · intro isSplit
    unfold splitFirst? at isSplit
    split at isSplit
    case h_2 => contradiction
    case h_1 taken found rest spans =>
      obtain ⟨rfl, rfl⟩ := Prod.mk.inj (Option.some.inj isSplit)
      rw [List.span_eq_takeWhile_dropWhile, Prod.mk.injEq] at spans
      obtain ⟨rfl, drops⟩ := spans
      have isMark : found = mark := by
        have stops := List.head?_dropWhile_not (· ≠ mark) text
        rw [drops] at stops
        simpa using stops
      subst isMark
      refine ⟨fun member => ?_, ?_⟩
      · simpa using List.mem_takeWhile_imp member
      · rw [← drops, List.takeWhile_append_dropWhile]
  · rintro ⟨absent, rfl⟩
    rw [splitFirst?, span_of_notMem absent]

/-! ### Credentials -/

theorem toList_encoded (username password : String) :
    (Credential.encode username password).encoded.toList =
      Text.Base64.encode (Text.Utf8.encode (username.toList ++ ':' :: password.toList)) :=
  String.toList_ofList

/-- A text reads as a login if it is the credential of that login; the user name
must not hold the mark that ends it. -/
theorem decode?_eq_some_iff {encoded : List Char} {login : Login} :
    decode? encoded = some login ↔
      ':' ∉ login.user.toList ∧
        encoded = (Credential.encode login.user login.password).encoded.toList := by
  have bytes (text : List Char) :
      (Text.Base64.decode? encoded).bind Text.Utf8.decode? = some text ↔
        encoded = Text.Base64.encode (Text.Utf8.encode text) := by
    simp only [Option.bind_eq_some_iff, Text.Base64.decode?_eq_some_iff,
      Text.Utf8.decode?_eq_some_iff, exists_eq_right]
  rw [toList_encoded, ← bytes]
  unfold decode?
  constructor
  · intro isLogin
    split at isLogin
    case h_1 => contradiction
    case h_2 text isText =>
      obtain ⟨⟨user, password⟩, isSplit, rfl⟩ := Option.map_eq_some_iff.mp isLogin
      obtain ⟨absent, rfl⟩ := splitFirst?_eq_some_iff.mp isSplit
      simpa using ⟨absent, isText⟩
  · rintro ⟨absent, isText⟩
    simp [isText, splitFirst?_eq_some_iff.mpr ⟨absent, rfl⟩]

/-! ### Headers -/

/-- A header of visible characters, spaces and tabs. -/
def IsHeaderText (header : String) : Prop := ∀ c ∈ header.toList, isHeaderText c = true

/-- A header is the word Basic in any letter case, one space, and a credential
with white space around it. -/
def Carries (header : String) (credential : Credential) : Prop :=
  ∃ scheme rest, header.toList = scheme ++ ' ' :: rest ∧
    scheme.map Char.toLower = "basic".toList ∧ Text.trim rest = credential.encoded.toList

theorem space_notMem_of_isBasic {scheme : List Char}
    (isBasic : scheme.map Char.toLower = "basic".toList) : ' ' ∉ scheme := by
  intro member
  have lowered : Char.toLower ' ' ∈ scheme.map Char.toLower := List.mem_map_of_mem member
  rw [isBasic] at lowered
  exact absurd lowered (by decide)

theorem ofHeader?_eq_some_iff {header : String} {login : Login} :
    ofHeader? header = some login ↔
      IsHeaderText header ∧ Carries header (Credential.encode login.user login.password) ∧
        ':' ∉ login.user.toList := by
  unfold ofHeader?
  constructor
  · intro isLogin
    split at isLogin
    case isFalse => contradiction
    case isTrue shows =>
      split at isLogin
      case h_1 => contradiction
      case h_2 scheme encoded isSplit =>
        split at isLogin
        case isFalse => contradiction
        case isTrue basic =>
          obtain ⟨absent, isCredential⟩ := decode?_eq_some_iff.mp isLogin
          obtain ⟨_, splits⟩ := splitFirst?_eq_some_iff.mp isSplit
          exact ⟨List.all_eq_true.mp shows,
            ⟨scheme, encoded, splits, of_decide_eq_true basic, isCredential⟩, absent⟩
  · rintro ⟨shows, ⟨scheme, encoded, splits, basic, isCredential⟩, absent⟩
    have isSplit : splitFirst? ' ' header.toList = some (scheme, encoded) :=
      splitFirst?_eq_some_iff.mpr ⟨space_notMem_of_isBasic basic, splits⟩
    have isBasic : isBasic scheme = true := decide_eq_true basic
    rw [if_pos (List.all_eq_true.mpr shows), isSplit]
    dsimp only
    rw [if_pos isBasic]
    exact decode?_eq_some_iff.mpr ⟨absent, isCredential⟩

/-- A header carries one credential. -/
theorem Carries.unique {header : String} {credential other : Credential}
    (carries : Carries header credential) (carriesOther : Carries header other) :
    credential = other := by
  obtain ⟨scheme, rest, splits, basic, isCredential⟩ := carries
  obtain ⟨scheme', rest', splits', basic', isOther⟩ := carriesOther
  have same : some (scheme, rest) = some (scheme', rest') :=
    (splitFirst?_eq_some_iff.mpr ⟨space_notMem_of_isBasic basic, splits⟩).symm.trans
      (splitFirst?_eq_some_iff.mpr ⟨space_notMem_of_isBasic basic', splits'⟩)
  obtain ⟨rfl, rfl⟩ := Prod.mk.inj (Option.some.inj same)
  exact Credential.ext (String.toList_injective (isCredential.symm.trans isOther))

/-- Every character of a credential shows in a header and is no white space. -/
theorem mem_encoded {username password : String} {c : Char}
    (member : c ∈ (Credential.encode username password).encoded.toList) :
    isHeaderText c = true ∧ Text.isBlank c = false := by
  have symbols : ∀ value : Fin 64, isHeaderText (Text.Base64.symbol value.val) = true ∧
      Text.isBlank (Text.Base64.symbol value.val) = false := by decide
  rw [toList_encoded] at member
  have padding : isHeaderText '=' = true ∧ Text.isBlank '=' = false := by decide
  exact Text.Base64.forall_mem_encode
    (fun c => isHeaderText c = true ∧ Text.isBlank c = false)
    (fun value small => symbols ⟨value, small⟩) padding _ c member

/-- What the console writes into a header is text and carries its credential. -/
theorem carries_headerValue (username password : String) :
    IsHeaderText (Credential.encode username password).headerValue ∧
      Carries (Credential.encode username password).headerValue
        (Credential.encode username password) := by
  have header : (Credential.encode username password).headerValue.toList =
      "Basic".toList ++ ' ' :: (Credential.encode username password).encoded.toList := by
    rw [Credential.headerValue, String.toList_append]
    rfl
  refine ⟨?_, "Basic".toList, _, header, rfl, ?_⟩
  · intro c member
    rw [header, List.mem_append, List.mem_cons] at member
    rcases member with inScheme | rfl | inCredential
    · have shows : "Basic".toList.all isHeaderText = true := by decide
      exact List.all_eq_true.mp shows c inScheme
    · rfl
    · exact (mem_encoded inCredential).1
  · exact Text.trim_of_noBlank fun _ member => (mem_encoded member).2

theorem encode_eq_encode_iff {username password username' password' : String} :
    Credential.encode username password = Credential.encode username' password' ↔
      username.toList ++ ':' :: password.toList = username'.toList ++ ':' :: password'.toList := by
  constructor
  · intro same
    have sameBytes := congrArg (fun credential => credential.encoded.toList) same
    simp only [toList_encoded] at sameBytes
    exact Text.Utf8.encode_inj (Text.Base64.encode_inj sameBytes)
  · intro same
    apply Credential.ext
    show encodedLogin username password = encodedLogin username' password'
    rw [encodedLogin, same, encodedLogin]

/-- The header of a credential reads as each login whose name and password join
to the same text; there is at most one. -/
theorem ofHeader?_headerValue {username password : String} {login : Login} :
    ofHeader? (Credential.encode username password).headerValue = some login ↔
      ':' ∉ login.user.toList ∧
        username ++ ":" ++ password = login.user ++ ":" ++ login.password := by
  obtain ⟨isText, carries⟩ := carries_headerValue username password
  have sameText : username ++ ":" ++ password = login.user ++ ":" ++ login.password ↔
      Credential.encode username password = Credential.encode login.user login.password := by
    rw [encode_eq_encode_iff, ← String.toList_inj]
    simp
  rw [ofHeader?_eq_some_iff, sameText]
  constructor
  · rintro ⟨-, carriesLogin, absent⟩
    exact ⟨absent, carries.unique carriesLogin⟩
  · rintro ⟨absent, same⟩
    exact ⟨isText, same ▸ carries, absent⟩

end Login

/-! ### Admission -/

/-- A request with the header that the console writes for a user and password. -/
def Request.withCredential (request : Request) (username password : String) : Request :=
  { request with authorization := some (Credential.encode username password).headerValue }

private theorem Server.admits_withCredential (server : Server) (request : Request)
    (username password : String) :
    server.admits (request.withCredential username password) = true ↔
      ':' ∉ server.user.toList ∧
        username ++ ":" ++ password = server.user ++ ":" ++ server.password := by
  have reads := @Login.ofHeader?_headerValue username password ⟨server.user, server.password⟩
  rw [← reads, Server.admits, Request.withCredential, Option.bind_some]
  cases Login.ofHeader? (Credential.encode username password).headerValue with
  | none => simp
  | some login =>
      cases login
      simp

/-- Headers of visible characters, spaces and tabs read as the login whose
credential they carry, and no others read as one; so a server admits a credential
exactly when its own user and password join to the same text. -/
theorem credentials_agree :
    (∀ header user password,
      Login.ofHeader? header = some ⟨user, password⟩ ↔
        Login.IsHeaderText header ∧ Login.Carries header (Credential.encode user password) ∧
          ':' ∉ user.toList) ∧
    ∀ (server : Server) (request : Request) (username password : String),
      server.admits (request.withCredential username password) = true ↔
        ':' ∉ server.user.toList ∧
          username ++ ":" ++ password = server.user ++ ":" ++ server.password :=
  ⟨fun _ _ _ => Login.ofHeader?_eq_some_iff, Server.admits_withCredential⟩

/-- White space that is no header text may end a header that carries a credential,
which then does not read as a login. -/
theorem not_reads_carried_noBreakSpace :
    Login.Carries "Basic YTpi\u00a0" (Credential.encode "a" "b") ∧ ':' ∉ "a".toList ∧
      Login.ofHeader? "Basic YTpi\u00a0" = none := by
  refine ⟨⟨"Basic".toList, "YTpi\u00a0".toList, ?_, ?_, ?_⟩, ?_, ?_⟩ <;> decide

end EventConsole.Demo
