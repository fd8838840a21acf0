import EventConsole.Proofs.Url.Domain
import EventConsole.Proofs.Url.PercentEncoding
import EventConsole.Url.Parse

/-!
Contract: hosts of servers and their texts.

An address is read back from its text. A name is read back unless one of its labels is
Punycode that is too long to be read; no such limit is checked when Punycode is written.

Owns: where a host ends in an authority, what the text of a host holds, and which hosts
are read back from it.
-/

namespace EventConsole.Url

/-- What was changed after it was read, was read. -/
theorem exists_of_map_eq_ok {ε α β : Type} {change : α → β} {read : Except ε α} {b : β}
    (changed : read.map change = .ok b) : ∃ a, read = .ok a ∧ change a = b := by
  cases read with
  | error fault => cases changed
  | ok a =>
      cases changed
      exact ⟨a, rfl, rfl⟩

/-! ### Ports after a host -/

/-- What follows a host: nothing, or a colon and the port. -/
def IsPortText (text : List Char) : Prop := text = [] ∨ ∃ digits, text = ':' :: digits

private theorem splitPort_portText {port : List Char} (isPort : IsPortText port) :
    splitPort false port = ([], port) := by
  rcases isPort with rfl | ⟨digits, rfl⟩
  · rfl
  · rfl

private theorem splitPort_plain {text port : List Char} (plain : ∀ c ∈ text, c ∉ [':', '[', ']'])
    (isPort : IsPortText port) : splitPort false (text ++ port) = (text, port) := by
  induction text with
  | nil => exact splitPort_portText isPort
  | cons c rest ih =>
      obtain ⟨plainChar, plainRest⟩ := List.forall_mem_cons.mp plain
      simp only [List.mem_cons, List.not_mem_nil, or_false, not_or] at plainChar
      rw [List.cons_append, splitPort, if_neg (fun colon => plainChar.1 colon.1),
        if_neg plainChar.2.1, if_neg plainChar.2.2]
      dsimp only
      rw [ih plainRest]

private theorem splitPort_inside {text port : List Char} (plain : ∀ c ∈ text, c ∉ ['[', ']'])
    (isPort : IsPortText port) :
    splitPort true (text ++ ']' :: port) = (text ++ [']'], port) := by
  induction text with
  | nil =>
      rw [List.nil_append, splitPort, if_neg (by decide), if_neg (by decide), if_pos rfl]
      dsimp only
      rw [splitPort_portText isPort, List.nil_append]
  | cons c rest ih =>
      obtain ⟨plainChar, plainRest⟩ := List.forall_mem_cons.mp plain
      simp only [List.mem_cons, List.not_mem_nil, or_false, not_or] at plainChar
      rw [List.cons_append, splitPort, if_neg (by simp), if_neg plainChar.1, if_neg plainChar.2]
      dsimp only
      rw [ih plainRest, List.cons_append]

/-- Colons within brackets do not begin a port. -/
theorem splitPort_brackets {text port : List Char} (plain : ∀ c ∈ text, c ∉ ['[', ']'])
    (isPort : IsPortText port) :
    splitPort false ('[' :: (text ++ [']']) ++ port) = ('[' :: (text ++ [']']), port) := by
  rw [List.cons_append, List.append_assoc, List.singleton_append, splitPort, if_neg (by decide),
    if_pos rfl]
  dsimp only
  rw [splitPort_inside plain isPort]

/-! ### Texts of hosts -/

/-- The characters that end an authority in the text of a URL. -/
def endsAuthority : List Char := ['/', '\\', '?', '#']

/-- A text that an authority holds as its host: nothing in it ends the authority or the
user information, and a port after it is told from it. -/
structure IsHostText (text : List Char) : Prop where
  filled : text ≠ []
  visible : ∀ c ∈ text, 32 < c.toNat
  inside : ∀ c ∈ text, c ∉ '@' :: endsAuthority
  splits : ∀ port, IsPortText port → splitPort false (text ++ port) = (text, port)

theorem isHostText_of_isDomainAscii {text : List Char} (filled : text ≠ [])
    (ascii : ∀ c ∈ text, IsDomainAscii c) : IsHostText text where
  filled := filled
  visible c member := by
    have plain := (ascii c member).2
    simp only [forbiddenInDomain, Bool.or_eq_false_iff, decide_eq_false_iff_not] at plain
    omega
  inside c member ends := by
    have forbidden : ∀ d ∈ '@' :: endsAuthority, forbiddenInDomain d = true :=
      List.all_iff_forall_prop.mp (by decide)
    have plain := (ascii c member).2
    rw [forbidden c ends] at plain
    cases plain
  splits port isPort := by
    have forbidden : ∀ d ∈ [':', '[', ']'], forbiddenInDomain d = true :=
      List.all_iff_forall_prop.mp (by decide)
    refine splitPort_plain (fun c member ends => ?_) isPort
    have plain := (ascii c member).2
    rw [forbidden c ends] at plain
    cases plain

private theorem isDomainAscii_of_isHexDigit {c : Char} (isHex : isHexDigit c = true) :
    IsDomainAscii c := by
  have all : ∀ c : Char, c.toNat < 103 → isHexDigit c = true → IsDomainAscii c :=
    Text.forall_char_lt (by decide)
  refine all c ?_ isHex
  by_contra large
  unfold isHexDigit hexValue? at isHex
  dsimp only at isHex
  rw [if_neg (by omega), if_neg (by omega), if_neg (by omega)] at isHex
  cases isHex

private theorem isHostText_ipv4Text (address : BitVec 32) :
    IsHostText (ipv4Text address).toList := by
  refine isHostText_of_isDomainAscii ?_ fun c member => ?_
  · intro empty
    have ends := endsInNumber_ipv4Text address
    rw [empty] at ends
    exact absurd ends (by decide)
  · exact (isInert_of_digit (mem_ipv4Text member)).plain

private theorem isHostText_brackets (groups : List Nat) :
    IsHostText ('[' :: ((ipv6Text groups).toList ++ [']'])) := by
  have inner : ∀ c ∈ (ipv6Text groups).toList,
      32 < c.toNat ∧ c ∉ '@' :: endsAuthority ∧ c ∉ ['[', ']'] := by
    intro c member
    rcases mem_ipv6Text member with rfl | isHex
    · decide
    · have single : IsHostText [c] := isHostText_of_isDomainAscii (List.cons_ne_nil c [])
        (List.forall_mem_singleton.mpr (isDomainAscii_of_isHexDigit isHex))
      refine ⟨single.visible c List.mem_cons_self, single.inside c List.mem_cons_self, ?_⟩
      rintro isBracket
      have noHex : ∀ d ∈ ['[', ']'], isHexDigit d = false := List.all_iff_forall_prop.mp (by decide)
      rw [noHex c isBracket] at isHex
      cases isHex
  have all : ∀ {holds : Char → Prop}, holds '[' → holds ']' →
      (∀ c ∈ (ipv6Text groups).toList, holds c) →
        ∀ c ∈ '[' :: ((ipv6Text groups).toList ++ [']']), holds c :=
    fun opens closes inside => List.forall_mem_cons.mpr
      ⟨opens, List.forall_mem_append.mpr ⟨inside, by simpa using closes⟩⟩
  exact
    { filled := by simp
      visible := all (by decide) (by decide) fun c member => (inner c member).1
      inside := all (by decide) (by decide) fun c member => (inner c member).2.1
      splits := fun port isPort =>
        splitPort_brackets (fun c member => (inner c member).2.2) isPort }

namespace Host

variable {text : List Char} {host : Host}

/-- A host of a special scheme is an address of 128 bits, or it is made of a domain. -/
inductive IsOfServer : Host → Prop where
  | ipv6 {groups : List Nat} (isGroups : IsGroups groups) : IsOfServer (.ipv6 groups)
  | ipv4 (address : BitVec 32) : IsOfServer (.ipv4 address)
  | name {source domain : List Char} (ascii : domainAscii? source = some domain)
      (filled : domain ≠ []) (noNumber : endsInNumber domain = false) :
      IsOfServer (.name (String.ofList domain))

private theorem isOfServer_of_parseBracketed (read : parseBracketed text = .ok host) :
    host.IsOfServer := by
  unfold parseBracketed at read
  split at read
  case h_1 =>
    obtain ⟨groups, address, rfl⟩ := exists_of_map_eq_ok read
    exact .ipv6 (isGroups_of_parseIpv6 address)
  case h_2 => cases read

theorem isOfServer_of_parseSpecial (read : parseSpecial text = .ok host) : host.IsOfServer := by
  unfold parseSpecial at read
  split at read
  case h_1 rest => exact isOfServer_of_parseBracketed read
  case h_2 =>
    split at read
    case h_1 => cases read
    case h_2 domain isDomain =>
      obtain ⟨source, -, ascii⟩ := Option.bind_eq_some_iff.mp isDomain
      unfold ofDomain at read
      split at read
      case isTrue => cases read
      case isFalse filled =>
        split at read
        case isTrue =>
          obtain ⟨address, -, rfl⟩ := exists_of_map_eq_ok read
          exact .ipv4 address
        case isFalse noNumber =>
          cases read
          exact .name ascii (by simpa using filled) (by simpa using noNumber)

theorem IsOfServer.isHostText (server : host.IsOfServer) : IsHostText host.text.toList := by
  cases server with
  | ipv6 isGroups => simpa [text] using isHostText_brackets _
  | ipv4 address => exact isHostText_ipv4Text address
  | name ascii filled =>
      rw [Host.text, String.toList_ofList]
      obtain ⟨_, isDomain⟩ := domainAscii?_eq_some_iff.mp ascii
      exact isHostText_of_isDomainAscii filled fun c member =>
        (isDomain.isDomainAscii_of_mem member).1

/-- A host of a special scheme is never empty. -/
theorem IsOfServer.ne_empty (server : host.IsOfServer) : host ≠ empty := by
  rintro rfl
  exact server.isHostText.filled rfl

/-! ### Reading back -/

/-- A host that is read back from its text. -/
def ReadsBack (host : Host) : Prop := parseSpecial host.text.toList = .ok host

/-- A host whose Punycode can be read. -/
def IsReadable : Host → Prop
  | .name text => ∀ label ∈ labels text.toList, Url.IsReadable label
  | _ => True

private theorem parseSpecial_of_isDomainAscii (plain : ∀ c ∈ text, IsDomainAscii c) :
    parseSpecial text =
      match domainAscii? text with
      | none => .error .domainName
      | some domain => ofDomain domain := by
  have absent : ∀ c, forbiddenInDomain c = true → c ∉ text := by
    intro c isForbidden member
    rw [(plain c member).2] at isForbidden
    cases isForbidden
  have decoded : Text.Utf8.decode? (percentDecode text) = some text := by
    rw [percentDecode_plain (absent '%' (by decide))]
    exact Text.Utf8.decode?_eq_some_iff.mpr rfl
  unfold parseSpecial
  split
  case h_1 => exact absurd List.mem_cons_self (absent '[' (by decide))
  case h_2 =>
    rw [decoded]
    rfl

private theorem readsBack_ipv6 {groups : List Nat} (isGroups : IsGroups groups) :
    (Host.ipv6 groups).ReadsBack := by
  have text : (Host.ipv6 groups).text.toList = '[' :: ((ipv6Text groups).toList ++ [']']) := by
    simp [Host.text]
  rw [ReadsBack, text]
  change parseBracketed ((ipv6Text groups).toList ++ [']']) = _
  rw [parseBracketed, List.reverse_append, List.reverse_singleton, List.singleton_append]
  change (parseIpv6 (ipv6Text groups).toList.reverse.reverse).map Host.ipv6 = _
  rw [List.reverse_reverse, parseIpv6_ipv6Text isGroups]
  rfl

private theorem readsBack_ipv4 (address : BitVec 32) : (Host.ipv4 address).ReadsBack := by
  have inert : ∀ c ∈ (ipv4Text address).toList, IsInert c :=
    fun c member => isInert_of_digit (mem_ipv4Text member)
  have filled := (isHostText_ipv4Text address).filled
  rw [ReadsBack, Host.text, parseSpecial_of_isDomainAscii fun c member => (inert c member).plain,
    domainAscii?_of_isInert inert]
  dsimp only
  rw [ofDomain, if_neg (by simpa using filled), if_pos (endsInNumber_ipv4Text address),
    parseIpv4_ipv4Text]
  rfl

private theorem eq_of_ofDomain {domain : List Char} {name : String}
    (isName : ofDomain domain = .ok (.name name)) : domain = name.toList := by
  unfold ofDomain at isName
  split at isName
  case isTrue => cases isName
  case isFalse =>
    split at isName
    case isTrue =>
      obtain ⟨_, -, same⟩ := exists_of_map_eq_ok isName
      cases same
    case isFalse =>
      cases isName
      exact String.toList_ofList.symm

theorem readsBack_name_iff {source domain : List Char} (ascii : domainAscii? source = some domain)
    (filled : domain ≠ []) (noNumber : endsInNumber domain = false) :
    (Host.name (String.ofList domain)).ReadsBack ↔
      ∀ label ∈ labels domain, Url.IsReadable label := by
  obtain ⟨_, isDomain⟩ := domainAscii?_eq_some_iff.mp ascii
  rw [← domainAscii?_eq_self_iff ascii, ReadsBack, Host.text, String.toList_ofList,
    parseSpecial_of_isDomainAscii fun c member => (isDomain.isDomainAscii_of_mem member).1]
  constructor
  · intro read
    split at read
    case h_1 => cases read
    case h_2 again isAscii =>
      rw [isAscii, eq_of_ofDomain read, String.toList_ofList]
  · intro same
    rw [same]
    dsimp only
    rw [ofDomain, if_neg (by simpa using filled), noNumber]
    rfl

/-- A host of a special scheme is read back if and only if its Punycode can be read. -/
theorem IsOfServer.readsBack_iff (server : host.IsOfServer) : host.ReadsBack ↔ host.IsReadable := by
  cases server with
  | ipv6 isGroups => exact iff_of_true (readsBack_ipv6 isGroups) trivial
  | ipv4 address => exact iff_of_true (readsBack_ipv4 address) trivial
  | name ascii filled noNumber =>
      rw [readsBack_name_iff ascii filled noNumber, IsReadable, String.toList_ofList]

end Host

end EventConsole.Url
