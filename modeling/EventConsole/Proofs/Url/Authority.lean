import EventConsole.Proofs.Url.Host
import EventConsole.Proofs.Url.Path
import EventConsole.Url.Parse

/-!
Contract: the authority of a server reads back from its text, as far as its host does.

User information is encoded, so that it holds no colon and no `@`; a port is written
only when it is not that of the scheme. What stands between them is the host.

Owns: where user information and port begin, the authorities of servers, and what
their text is read as.

Does not own: which hosts read back.
-/

namespace EventConsole.Url

/-! ### User information -/

theorem splitUserinfo_of_not_mem {text : List Char} (noAt : '@' ∉ text) :
    splitUserinfo text = (none, text) := by
  have absent := List.mem_reverse.not.mpr noAt
  rw [splitUserinfo, Text.takeWhile_ne_of_not_mem absent, Text.dropWhile_ne_of_not_mem absent,
    List.reverse_reverse]

private theorem splitUserinfo_append (userinfo : List Char) {server : List Char}
    (noAt : '@' ∉ server) :
    splitUserinfo (userinfo ++ '@' :: server) = (some userinfo, server) := by
  have absent := List.mem_reverse.not.mpr noAt
  have reversed : (userinfo ++ '@' :: server).reverse =
      server.reverse ++ '@' :: userinfo.reverse := by simp
  rw [splitUserinfo, reversed, Text.takeWhile_ne_append absent, Text.dropWhile_ne_append absent]
  simp

variable {username password : String}

/-- User name and password that were encoded are read as they are. -/
theorem parseUserinfo_colon (encodedName : IsEncoded encodedInUserinfo username.toList)
    (encodedPassword : IsEncoded encodedInUserinfo password.toList) :
    parseUserinfo (username.toList ++ ':' :: password.toList) = (username, password) := by
  have noColon := encodedName.not_mem (c := ':') (by decide)
  rw [parseUserinfo, List.span_eq_takeWhile_dropWhile, Text.takeWhile_ne_append noColon,
    Text.dropWhile_ne_append noColon]
  simp [percentEncode_of_isEncoded encodedName, percentEncode_of_isEncoded encodedPassword]

private theorem parseUserinfo_name (encodedName : IsEncoded encodedInUserinfo username.toList) :
    parseUserinfo username.toList = (username, "") := by
  have noColon := encodedName.not_mem (c := ':') (by decide)
  rw [parseUserinfo, List.span_eq_takeWhile_dropWhile, Text.takeWhile_ne_of_not_mem noColon,
    Text.dropWhile_ne_of_not_mem noColon]
  simp [percentEncode_of_isEncoded encodedName]

private theorem isEncoded_parseUserinfo (text : List Char) :
    IsEncoded encodedInUserinfo (parseUserinfo text).1.toList ∧
      IsEncoded encodedInUserinfo (parseUserinfo text).2.toList := by
  have encoded : ∀ text, IsEncoded encodedInUserinfo
      (String.ofList (percentEncode encodedInUserinfo text)).toList := by
    intro text
    rw [String.toList_ofList]
    exact isEncoded_percentEncode (List.all_iff_forall_prop.mp (by decide)) text
  unfold parseUserinfo
  split
  case h_1 => exact ⟨encoded _, by simp [IsEncoded]⟩
  case h_2 => exact ⟨encoded _, encoded _⟩

/-! ### Ports -/

theorem isDigit_of_mem_port {port : UInt16} {c : Char} (member : c ∈ (toString port.toNat).toList) :
    c.isDigit = true := by
  rw [show toString port.toNat = String.ofList (Nat.toDigits 10 port.toNat) from rfl,
    String.toList_ofList] at member
  exact Nat.isDigit_of_mem_toDigits (by decide) (by decide) member

/-- The digits of a port are read as this port, unless it is that of the scheme. -/
theorem parsePort_toString {scheme : String} {port : UInt16}
    (other : defaultPort? scheme ≠ some port) :
    parsePort scheme (toString port.toNat).toList = .ok (some port) := by
  have digits : (toString port.toNat).toList.all Char.isDigit = true :=
    List.all_eq_true.mpr fun _ member => isDigit_of_mem_port member
  have value : digitsValue 10 (toString port.toNat).toList = port.toNat := by
    rw [show toString port.toNat = String.ofList (Nat.toDigits 10 port.toNat) from rfl,
      String.toList_ofList, digitsValue_toDigits (by decide) (by decide)]
  have small : port.toNat ≤ 65535 := Nat.le_of_lt_succ port.toNat_lt
  have filled : (toString port.toNat).toList.isEmpty = false := by
    rw [show toString port.toNat = String.ofList (Nat.toDigits 10 port.toNat) from rfl,
      String.toList_ofList, List.isEmpty_eq_false_iff]
    exact Nat.toDigits_ne_nil
  rw [parsePort, digits, value, filled]
  simp [small, other]

private theorem parsePort_ne_default {scheme : String} {digits : List Char} {port : UInt16}
    (read : parsePort scheme digits = .ok (some port)) : defaultPort? scheme ≠ some port := by
  unfold parsePort at read
  split at read
  case isTrue =>
    dsimp only at read
    split at read
    case isTrue => cases read
    case isFalse other =>
      cases read
      simp only [Bool.or_eq_true, beq_iff_eq, not_or] at other
      exact other.2
  case isFalse => cases read

/-! ### Authorities of servers -/

/-- An authority as reading leaves it under a scheme. -/
structure Authority.IsOfServer (scheme : String) (authority : Authority) : Prop where
  username : IsEncoded encodedInUserinfo authority.username.toList
  password : IsEncoded encodedInUserinfo authority.password.toList
  host : IsHostText authority.host.text.toList
  port : ∀ port, authority.port = some port → defaultPort? scheme ≠ some port

namespace Authority

/-- The user information before the `@`, if there is any. -/
def userinfo? (authority : Authority) : Option (List Char) :=
  if authority.username.isEmpty && authority.password.isEmpty then none
  else if authority.password.isEmpty then some authority.username.toList
  else some (authority.username.toList ++ ':' :: authority.password.toList)

/-- Host and port. -/
def serverText (authority : Authority) : List Char :=
  authority.host.text.toList ++ authority.portText.toList

variable {scheme : String} {authority : Authority}

theorem toList_text (authority : Authority) :
    authority.text.toList =
      '/' :: '/' :: (authority.userinfoText.toList ++ authority.serverText) := by
  simp [text, serverText]

private theorem toList_userinfoText (authority : Authority) :
    authority.userinfoText.toList = (authority.userinfo?.map (· ++ ['@'])).getD [] := by
  unfold userinfoText userinfo?
  split
  case isTrue => rfl
  case isFalse =>
    split
    · simp
    · simp

private theorem isPortText (authority : Authority) : IsPortText authority.portText.toList := by
  unfold portText
  split
  case h_1 => exact .inl rfl
  case h_2 port _ => exact .inr ⟨(toString port.toNat).toList, by simp⟩

private theorem mem_portText {c : Char} (member : c ∈ authority.portText.toList) :
    c = ':' ∨ c.isDigit = true := by
  unfold portText at member
  split at member
  case h_1 => cases member
  case h_2 =>
    rw [String.toList_append, List.mem_append] at member
    rcases member with isColon | inDigits
    · exact .inl (by simpa using isColon)
    · exact .inr (isDigit_of_mem_port inDigits)

/-- User information holds what it does not encode, and colons. -/
theorem mem_userinfo? (server : authority.IsOfServer scheme) {userinfo : List Char}
    (isUserinfo : authority.userinfo? = some userinfo) {c : Char} (member : c ∈ userinfo) :
    c = ':' ∨ c.toNat < 128 ∧ encodedInUserinfo c = false := by
  unfold userinfo? at isUserinfo
  split at isUserinfo
  case isTrue => cases isUserinfo
  case isFalse =>
    split at isUserinfo
    case isTrue =>
      cases isUserinfo
      exact .inr (server.username c member)
    case isFalse =>
      cases isUserinfo
      rcases List.mem_append.mp member with inName | later
      · exact .inr (server.username c inName)
      · rcases List.mem_cons.mp later with isColon | inPassword
        · exact .inl isColon
        · exact .inr (server.password c inPassword)

/-- Nothing in an authority ends it, and all of it shows. -/
theorem inside_of_mem (server : authority.IsOfServer scheme) {c : Char}
    (member : c ∈ authority.userinfoText.toList ++ authority.serverText) :
    32 < c.toNat ∧ c ∉ endsAuthority := by
  have encoded : ∀ d ∈ endsAuthority, encodedInUserinfo d = true :=
    List.all_iff_forall_prop.mp (by decide)
  have digit : c.isDigit = true → 32 < c.toNat ∧ c ∉ endsAuthority := by
    intro isDigit
    have low : '0'.toNat ≤ c.toNat := (Char.isDigit_iff_toNat.mp isDigit).1
    refine ⟨Nat.lt_of_lt_of_le (by decide) low, fun ends => ?_⟩
    have noDigit : ∀ d ∈ endsAuthority, d.isDigit = false := List.all_iff_forall_prop.mp (by decide)
    rw [noDigit c ends] at isDigit
    cases isDigit
  rcases List.mem_append.mp member with inUserinfo | inServer
  · rw [toList_userinfoText] at inUserinfo
    cases isUserinfo : authority.userinfo? with
    | none => simp [isUserinfo] at inUserinfo
    | some userinfo =>
        rw [isUserinfo, Option.map_some, Option.getD_some, List.mem_append,
          List.mem_singleton] at inUserinfo
        rcases inUserinfo with inside | rfl
        · rcases mem_userinfo? server isUserinfo inside with rfl | ⟨ascii, plain⟩
          · decide
          · have settled : IsEncoded encodedInUserinfo [c] :=
              List.forall_mem_singleton.mpr ⟨ascii, plain⟩
            refine ⟨settled.path_of_userinfo.visible c List.mem_cons_self, fun ends => ?_⟩
            rw [encoded c ends] at plain
            cases plain
        · decide
  · rcases List.mem_append.mp inServer with inHost | inPort
    · have inside := server.host.inside c inHost
      exact ⟨server.host.visible c inHost, fun ends => inside (List.mem_cons_of_mem _ ends)⟩
    · rcases mem_portText inPort with rfl | isDigit
      · decide
      · exact digit isDigit

theorem isSeparator_of_mem (server : authority.IsOfServer scheme) {c : Char}
    (member : c ∈ authority.userinfoText.toList ++ authority.serverText) :
    Path.isSeparator true c = false := by
  have plain := (inside_of_mem server member).2
  simp only [endsAuthority, List.mem_cons, List.not_mem_nil, or_false, not_or] at plain
  simp [Path.isSeparator, plain]

private theorem parseUserinfo_userinfo? (server : authority.IsOfServer scheme)
    {userinfo : List Char} (isUserinfo : authority.userinfo? = some userinfo) :
    parseUserinfo userinfo = (authority.username, authority.password) := by
  unfold userinfo? at isUserinfo
  split at isUserinfo
  case isTrue => cases isUserinfo
  case isFalse =>
    split at isUserinfo
    case isTrue noPassword =>
      cases isUserinfo
      rw [parseUserinfo_name server.username, String.isEmpty_iff.mp noPassword]
    case isFalse =>
      cases isUserinfo
      exact parseUserinfo_colon server.username server.password

private theorem eq_empty_of_userinfo? (none : authority.userinfo? = none) :
    authority.username = "" ∧ authority.password = "" := by
  unfold userinfo? at none
  split at none
  case isTrue empty => simpa [String.isEmpty_iff] using empty
  case isFalse =>
    split at none
    · cases none
    · cases none

private theorem splitUserinfo_text (server : authority.IsOfServer scheme) :
    splitUserinfo (authority.userinfoText.toList ++ authority.serverText) =
      (authority.userinfo?, authority.serverText) := by
  have noAt : '@' ∉ authority.serverText := by
    rw [serverText, List.mem_append, not_or]
    refine ⟨fun inHost => server.host.inside _ inHost List.mem_cons_self, fun inPort => ?_⟩
    exact absurd (mem_portText inPort) (by decide)
  rw [toList_userinfoText]
  cases authority.userinfo? with
  | none => exact splitUserinfo_of_not_mem noAt
  | some userinfo =>
      rw [Option.map_some, Option.getD_some, List.append_assoc]
      exact splitUserinfo_append userinfo noAt

/-- The texts that an authority is made of, as it stands before a path. -/
def parts (authority : Authority) (path : List Char) : AuthorityText where
  userinfo := authority.userinfo?
  host := authority.host.text.toList
  port := authority.port.map fun port => (toString port.toNat).toList
  path := path

/-- An authority falls into its parts where a path follows it. -/
theorem ofText_parts (server : authority.IsOfServer scheme) {path : List Char}
    (begins : path = [] ∨ ∃ rest, path = '/' :: rest) :
    AuthorityText.ofText true (authority.userinfoText.toList ++ authority.serverText ++ path) =
      authority.parts path := by
  have inside : ∀ c ∈ authority.userinfoText.toList ++ authority.serverText,
      (!Path.isSeparator true c) = true := by
    intro c member
    rw [isSeparator_of_mem server member]
    rfl
  have ends : path.span (fun c => !Path.isSeparator true c) = ([], path) := by
    rcases begins with rfl | ⟨rest, rfl⟩
    · rfl
    · rfl
  rw [List.span_eq_takeWhile_dropWhile, Prod.mk.injEq] at ends
  rw [AuthorityText.ofText, List.span_eq_takeWhile_dropWhile, List.takeWhile_append_of_pos inside,
    List.dropWhile_append_of_pos inside, ends.1, ends.2, List.append_nil]
  simp only [splitUserinfo_text server]
  rw [serverText, server.host.splits _ authority.isPortText, parts, portText]
  cases authority.port with
  | none => rfl
  | some port =>
      have noBackslash : '\\' ∉ (toString port.toNat).toList :=
        fun member => absurd (isDigit_of_mem_port member) (by decide)
      have text : (":" ++ toString port.toNat).toList = ':' :: (toString port.toNat).toList := by
        simp
      simp only [text, Text.takeWhile_ne_of_not_mem noBackslash,
        Text.dropWhile_ne_of_not_mem noBackslash, List.nil_append, Option.map_some]

/-- An authority is read from its parts with the host that its text names. -/
theorem parseAuthority_parts (server : authority.IsOfServer scheme)
    (special : isSpecial scheme = true) (path : List Char) (goesOn : Bool) :
    parseAuthority scheme (authority.parts path) goesOn =
      (Host.parseSpecial authority.host.text.toList).map fun host =>
        { authority with host := host } := by
  have filled : authority.host.text.toList.isEmpty = false :=
    List.isEmpty_eq_false_iff.mpr server.host.filled
  have readServer : parseServer scheme (authority.parts path) =
      (Host.parseSpecial authority.host.text.toList).map fun host => (host, authority.port) := by
    rw [parseServer, parseHost, special, if_pos rfl, parts, filled, if_neg Bool.false_ne_true]
    cases read : Host.parseSpecial authority.host.text.toList with
    | error fault => rfl
    | ok host =>
        cases isPort : authority.port with
        | none => rfl
        | some port =>
            dsimp only [Option.map_some]
            rw [if_neg ((Host.isOfServer_of_parseSpecial read).ne_empty),
              parsePort_toString (server.port port isPort)]
            rfl
  unfold parseAuthority
  split
  case h_1 noUserinfo =>
    obtain ⟨noName, noPassword⟩ := eq_empty_of_userinfo? noUserinfo
    rw [readServer]
    cases Host.parseSpecial authority.host.text.toList with
    | error fault => rfl
    | ok host =>
        dsimp only [Except.map]
        rw [noName, noPassword]
  case h_2 userinfo isUserinfo =>
    rw [parts, filled, Bool.and_false, Bool.false_and, Bool.false_and, if_neg Bool.false_ne_true]
    rw [parts] at readServer
    rw [readServer]
    cases read : Host.parseSpecial authority.host.text.toList with
    | error fault => rfl
    | ok host =>
        dsimp only [Except.map]
        rw [parseUserinfo_userinfo? server isUserinfo]
        simp [(Host.isOfServer_of_parseSpecial read).ne_empty]

private theorem parseServer_eq_ok {text : AuthorityText} {host : Host} {port : Option UInt16}
    (special : isSpecial scheme = true) (read : parseServer scheme text = .ok (host, port)) :
    host.IsOfServer ∧ ∀ number, port = some number → defaultPort? scheme ≠ some number := by
  unfold parseServer at read
  split at read
  case h_1 => cases read
  case h_2 found isHost =>
    have server : found.IsOfServer := by
      rw [parseHost, special, if_pos rfl] at isHost
      split at isHost
      case isTrue => cases isHost
      case isFalse => exact Host.isOfServer_of_parseSpecial isHost
    split at read
    case h_1 =>
      cases read
      exact ⟨server, by simp⟩
    case h_2 digits _ =>
      split at read
      case isTrue => cases read
      case isFalse =>
        obtain ⟨number, isPort, same⟩ := exists_of_map_eq_ok read
        cases same
        exact ⟨server, fun _ same => parsePort_ne_default (same ▸ isPort)⟩

/-- What is read as an authority is one of a server. -/
theorem isOfServer_of_parseAuthority {text : AuthorityText} {goesOn : Bool}
    (special : isSpecial scheme = true) (read : parseAuthority scheme text goesOn = .ok authority) :
    authority.host.IsOfServer ∧ authority.IsOfServer scheme := by
  have ofServer : ∀ {username password : String} {host : Host} {port : Option UInt16},
      IsEncoded encodedInUserinfo username.toList → IsEncoded encodedInUserinfo password.toList →
      parseServer scheme text = .ok (host, port) →
        host.IsOfServer ∧ IsOfServer scheme ⟨username, password, host, port⟩ := by
    intro username password host port encodedName encodedPassword isServer
    obtain ⟨server, notDefault⟩ := parseServer_eq_ok special isServer
    exact ⟨server, encodedName, encodedPassword, server.isHostText, notDefault⟩
  unfold parseAuthority at read
  split at read
  case h_1 =>
    obtain ⟨server, isServer, rfl⟩ := exists_of_map_eq_ok read
    exact ofServer (by simp [IsEncoded]) (by simp [IsEncoded]) isServer
  case h_2 userinfo _ =>
    split at read
    case isTrue => cases read
    case isFalse =>
      split at read
      case h_1 => cases read
      case h_2 isServer =>
        dsimp only at read
        split at read
        case isTrue => cases read
        case isFalse =>
          cases read
          obtain ⟨encodedName, encodedPassword⟩ := isEncoded_parseUserinfo userinfo
          exact ofServer encodedName encodedPassword isServer

end Authority

end EventConsole.Url
