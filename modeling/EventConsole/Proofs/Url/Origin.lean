import EventConsole.Client.Session
import EventConsole.Proofs.Url.Authority
import Mathlib.Data.List.TakeWhile

/-!
Contract: where the endpoints of a server lie.

The text of a URL with a server and a path of plain segments is read as that URL, as far
as its host reads back. The base of the endpoints is this text without the slashes at its
end; an endpoint written after it lies under `/api` of the origin unless the text holds a
query or a fragment, which takes the endpoint in.

Owns: what a text is read as on the web, the text of a server, and where its endpoints
lie.

Does not own: which hosts read back (`Host`), and calls to the server.
-/

namespace EventConsole.Url

variable {text : String} {url : Url} {scheme : String}

/-- The schemes of the web. -/
def webSchemes : List String := ["http", "https"]

theorem isSpecial_of_web (web : scheme ∈ webSchemes) : isSpecial scheme = true := by
  have all : ∀ scheme ∈ webSchemes, isSpecial scheme = true := by decide
  exact all scheme web

/-! ### Query and fragment -/

/-- Trimming keeps what shows. -/
theorem mem_trim {text : List Char} {c : Char} (visible : 32 < c.toNat) :
    c ∈ trim text ↔ c ∈ text := by
  have stays : decide (c.toNat ≤ 32) = false := by simpa using visible
  constructor
  · intro member
    have inside := (List.dropWhile_sublist _).subset (List.mem_reverse.mp member)
    exact (List.dropWhile_sublist _).subset (List.mem_reverse.mp inside)
  · intro member
    refine List.mem_reverse.mpr (Text.mem_dropWhile_of_not ?_ stays)
    exact List.mem_reverse.mpr (Text.mem_dropWhile_of_not member stays)

private theorem trim_of_visible {text : List Char} (visible : ∀ c ∈ text, 32 < c.toNat) :
    trim text = text := by
  have keeps : ∀ items : List Char, (∀ c ∈ items, 32 < c.toNat) →
      items.dropWhile (fun c => decide (c.toNat ≤ 32)) = items := by
    intro items shown
    rw [List.dropWhile_eq_self_iff]
    intro filled
    simpa using shown _ (List.getElem_mem filled)
  rw [trim, keeps text visible, keeps _ fun c member => visible c (List.mem_reverse.mp member),
    List.reverse_reverse]

/-- The marks before a query and a fragment. -/
def tailMarks : List Char := ['?', '#']

/-- A scheme and its colon hold no marks. -/
theorem mem_of_splitScheme? {text rest : List Char}
    (split : splitScheme? text = some (scheme, rest)) {c : Char} (isMark : c ∈ tailMarks) :
    c ∈ rest ↔ c ∈ text := by
  have noScheme : ∀ d ∈ tailMarks, (isSchemeChar d || isBreak d) = false :=
    List.all_iff_forall_prop.mp (by decide)
  have noColon : ∀ d ∈ tailMarks, d ≠ ':' := List.all_iff_forall_prop.mp (by decide)
  unfold splitScheme? at split
  rw [List.span_eq_takeWhile_dropWhile] at split
  split at split
  case h_1 start after parts =>
    obtain ⟨isStart, isAfter⟩ := Prod.mk.inj parts
    have same : after = rest := by
      split at split
      case h_1 => cases split
      case h_2 =>
        split at split
        · cases split
          rfl
        · cases split
    have whole := List.takeWhile_append_dropWhile
      (p := fun c => isSchemeChar c || isBreak c) (l := text)
    rw [isStart, isAfter, same] at whole
    rw [← whole, List.mem_append, List.mem_cons]
    refine ⟨fun member => .inr (.inr member), ?_⟩
    rintro (inStart | isColon | member)
    · rw [← isStart] at inStart
      have isScheme := List.mem_takeWhile_imp inStart
      rw [noScheme c isMark] at isScheme
      cases isScheme
    · exact absurd isColon (noColon c isMark)
    · exact member
  case h_2 => cases split

theorem splitFragment_eq (text : List Char) :
    splitFragment text = (text.takeWhile (· ≠ '#'), (text.dropWhile (· ≠ '#')).tail?) := by
  rw [splitFragment, List.span_eq_takeWhile_dropWhile]
  cases text.dropWhile (· ≠ '#') with
  | nil => rfl
  | cons mark fragment => rfl

theorem splitQuery_eq (text : List Char) :
    splitQuery text = (text.takeWhile (· ≠ '?'), (text.dropWhile (· ≠ '?')).tail?) := by
  rw [splitQuery, List.span_eq_takeWhile_dropWhile]
  cases text.dropWhile (· ≠ '?') with
  | nil => rfl
  | cons mark query => rfl

theorem Tail.ofText_of_not_mem {text : List Char} (noMark : ∀ c ∈ tailMarks, c ∉ text) :
    Tail.ofText text = ⟨text, none, none⟩ := by
  have noHash := noMark '#' (by decide)
  have noQuestion := noMark '?' (by decide)
  rw [Tail.ofText, splitFragment_eq, Text.takeWhile_ne_of_not_mem noHash,
    Text.dropWhile_ne_of_not_mem noHash]
  dsimp only
  rw [splitQuery_eq, Text.takeWhile_ne_of_not_mem noQuestion,
    Text.dropWhile_ne_of_not_mem noQuestion]
  rfl

/-- Neither query nor fragment is found only where there are no marks. -/
theorem Tail.ofText_none_iff (text : List Char) :
    (Tail.ofText text).query = none ∧ (Tail.ofText text).fragment = none ↔
      ∀ c ∈ tailMarks, c ∉ text := by
  constructor
  · rw [Tail.ofText, splitFragment_eq]
    dsimp only
    rw [splitQuery_eq]
    dsimp only
    rw [Option.map_eq_none_iff, Option.map_eq_none_iff]
    rintro ⟨noQuery, noFragment⟩
    have absent : ∀ {mark : Char} {text : List Char},
        (text.dropWhile (· ≠ mark)).tail? = none → mark ∉ text := by
      intro mark text none member
      have stays := Text.mem_dropWhile_of_not (p := fun c => decide (c ≠ mark)) member (by simp)
      cases shape : text.dropWhile (· ≠ mark) with
      | nil =>
          rw [shape] at stays
          cases stays
      | cons first rest =>
          rw [shape] at none
          cases none
    have noHash := absent noFragment
    rw [Text.takeWhile_ne_of_not_mem noHash] at noQuery
    simpa [tailMarks] using ⟨absent noQuery, noHash⟩
  · intro noMark
    rw [Tail.ofText_of_not_mem noMark]
    exact ⟨rfl, rfl⟩

/-- Scheme, query and fragment of a URL are those of its text. -/
structure IsAssembled (scheme : String) (tail : Tail) (url : Url) : Prop where
  scheme : url.scheme = scheme
  query : url.query = none ↔ tail.query = none
  fragment : url.fragment = none ↔ tail.fragment = none

theorem isAssembled_assemble (scheme : String) (authority : Option Authority) (path : Path)
    (tail : Tail) : IsAssembled scheme tail (assemble scheme authority path tail) :=
  ⟨rfl, Option.map_eq_none_iff, Option.map_eq_none_iff⟩

private theorem isAssembled_of_parseWithAuthority {text : List Char} {tail : Tail}
    (read : parseWithAuthority scheme text tail = .ok url) : IsAssembled scheme tail url := by
  obtain ⟨authority, -, rfl⟩ := exists_of_map_eq_ok read
  exact isAssembled_assemble ..

private theorem isAssembled_of_parseGeneric {tail : Tail}
    (read : parseGeneric scheme tail = .ok url) : IsAssembled scheme tail url := by
  unfold parseGeneric at read
  split at read
  case h_1 => exact isAssembled_of_parseWithAuthority read
  case h_2 =>
    cases read
    exact isAssembled_assemble ..
  case h_3 =>
    cases read
    exact isAssembled_assemble ..

private theorem isAssembled_of_parseFile {tail : Tail} (read : parseFile tail = .ok url) :
    IsAssembled "file" tail url := by
  obtain ⟨⟨host, path⟩, -, rfl⟩ := exists_of_map_eq_ok read
  exact isAssembled_assemble ..

/-- The ways in which a text is read as a URL. -/
theorem parse_cases (read : parse text = .ok url) :
    ∃ scheme rest, splitScheme? (trim text.toList) = some (scheme, rest) ∧
      IsAssembled scheme (Tail.ofText rest) url ∧
      (scheme ∈ webSchemes →
        parseWithAuthority scheme
          ((dropBreaks (Tail.ofText rest).main).dropWhile (Path.isSeparator true))
          (Tail.ofText rest).withoutBreaks = .ok url) := by
  unfold parse at read
  split at read
  case h_1 => cases read
  case h_2 scheme rest isScheme =>
    refine ⟨scheme, rest, isScheme, ?_⟩
    dsimp only at read
    split at read
    case isTrue isFile =>
      subst isFile
      exact ⟨isAssembled_of_parseFile read, fun web => absurd web (by decide)⟩
    case isFalse =>
      split at read
      case isTrue =>
        have assembled := isAssembled_of_parseWithAuthority read
        exact ⟨⟨assembled.scheme, assembled.query, assembled.fragment⟩, fun _ => read⟩
      case isFalse general =>
        have assembled := isAssembled_of_parseGeneric read
        exact ⟨⟨assembled.scheme, assembled.query, assembled.fragment⟩,
          fun web => absurd (isSpecial_of_web web) general⟩

/-- A URL has neither query nor fragment if and only if its text holds none of their marks. -/
theorem none_iff_of_parse (read : parse text = .ok url) :
    url.query = none ∧ url.fragment = none ↔ ∀ c ∈ tailMarks, c ∉ text.toList := by
  obtain ⟨scheme, rest, isScheme, assembled, -⟩ := parse_cases read
  have visible : ∀ c ∈ tailMarks, 32 < c.toNat := List.all_iff_forall_prop.mp (by decide)
  rw [assembled.query, assembled.fragment, Tail.ofText_none_iff]
  refine forall₂_congr fun c isMark => not_congr ?_
  rw [mem_of_splitScheme? isScheme isMark, mem_trim (visible c isMark)]

/-! ### Origins on the web -/

/-- A URL with a server and a path of plain segments. -/
structure IsOfServer (url : Url) (server : Authority) (parts : List String) : Prop where
  authority : url.authority = some server
  host : server.host.IsOfServer
  server : server.IsOfServer url.scheme
  path : url.path = .segments parts
  plain : ∀ segment ∈ parts, Path.IsPlain segment

private theorem isOfServer_of_parseWithAuthority {text : List Char} {tail : Tail}
    (special : isSpecial scheme = true) (read : parseWithAuthority scheme text tail = .ok url) :
    ∃ server parts, IsOfServer url server parts := by
  unfold parseWithAuthority at read
  rw [special] at read
  obtain ⟨server, readServer, rfl⟩ := exists_of_map_eq_ok read
  obtain ⟨host, isServer⟩ := Authority.isOfServer_of_parseAuthority special readServer
  obtain ⟨parts, path, plain⟩ := Path.isPlain_of_parse (AuthorityText.ofText true text).path
  exact ⟨server, parts, rfl, host, isServer, path, plain⟩

/-- What is read as a URL of the web has a server and a path of plain segments. -/
theorem isOfServer_of_parse (read : parse text = .ok url) (web : url.scheme ∈ webSchemes) :
    ∃ server parts, IsOfServer url server parts := by
  obtain ⟨scheme, rest, -, assembled, readServer⟩ := parse_cases read
  rw [assembled.scheme] at web
  exact isOfServer_of_parseWithAuthority (isSpecial_of_web web) (readServer web)

/-! ### The text of a server -/

variable {server : Authority} {parts : List String}

/-- The text of a URL with a server, without query and fragment. -/
def textOf (scheme : String) (server : Authority) (parts : List String) : String :=
  scheme ++ ":" ++ server.text ++ Path.segmentsText parts

/-- The text after the scheme and its colon. -/
def afterScheme (server : Authority) (parts : List String) : List Char :=
  '/' :: '/' :: (server.userinfoText.toList ++ server.serverText ++
    (Path.segmentsText parts).toList)

private theorem toList_textOf (scheme : String) (server : Authority) (parts : List String) :
    (textOf scheme server parts).toList = scheme.toList ++ ':' :: afterScheme server parts := by
  simp [textOf, afterScheme, Authority.toList_text]

private theorem visible_of_mem_afterScheme (isServer : server.IsOfServer scheme)
    (plain : ∀ segment ∈ parts, Path.IsPlain segment) {c : Char}
    (member : c ∈ afterScheme server parts) : 32 < c.toNat ∧ c ∉ tailMarks := by
  have slash : 32 < '/'.toNat ∧ '/' ∉ tailMarks := by decide
  rcases List.mem_cons.mp member with rfl | member
  · exact slash
  rcases List.mem_cons.mp member with rfl | member
  · exact slash
  rcases List.mem_append.mp member with inServer | inPath
  · obtain ⟨visible, inside⟩ := Authority.inside_of_mem isServer inServer
    refine ⟨visible, fun isMark => inside ?_⟩
    have all : ∀ d ∈ tailMarks, d ∈ endsAuthority := List.all_iff_forall_prop.mp (by decide)
    exact all c isMark
  · rcases Path.mem_segmentsText inPath with rfl | ⟨segment, inParts, inSegment⟩
    · exact slash
    · have encoded := (plain segment inParts).encoded
      refine ⟨encoded.visible c inSegment, fun isMark => ?_⟩
      have all : ∀ d ∈ tailMarks, encodedInPath d = true := List.all_iff_forall_prop.mp (by decide)
      exact encoded.not_mem (all c isMark) inSegment

private theorem splitScheme?_web (web : scheme ∈ webSchemes) (rest : List Char) :
    splitScheme? (scheme.toList ++ ':' :: rest) = some (scheme, rest) := by
  rcases List.mem_cons.mp web with rfl | web
  · rfl
  · obtain rfl := List.mem_singleton.mp web
    rfl

/-- The text of a server is read as this server, as far as its host reads back. -/
theorem parse_textOf (web : scheme ∈ webSchemes) (isServer : server.IsOfServer scheme)
    (filled : parts ≠ []) (plain : ∀ segment ∈ parts, Path.IsPlain segment) :
    parse (textOf scheme server parts) =
      (Host.parseSpecial server.host.text.toList).map fun host =>
        ⟨scheme, some { server with host := host }, .segments parts, none, none⟩ := by
  have special := isSpecial_of_web web
  have inside := fun c member => visible_of_mem_afterScheme isServer plain (c := c) member
  have trimmed : trim (textOf scheme server parts).toList =
      scheme.toList ++ ':' :: afterScheme server parts := by
    have visibleScheme : ∀ scheme ∈ webSchemes,
        scheme.toList.all fun c => decide (32 < c.toNat) := by decide
    rw [toList_textOf]
    refine trim_of_visible (List.forall_mem_append.mpr
      ⟨List.all_iff_forall_prop.mp (visibleScheme scheme web), ?_⟩)
    exact List.forall_mem_cons.mpr ⟨by decide, fun c member => (inside c member).1⟩
  have noBreaks : dropBreaks (afterScheme server parts) = afterScheme server parts := by
    refine List.filter_eq_self.mpr fun c member => ?_
    have visible := (inside c member).1
    simp only [isBreak, Bool.not_eq_true', Bool.or_eq_false_iff, decide_eq_false_iff_not]
    omega
  have dropped : (afterScheme server parts).dropWhile (Path.isSeparator true) =
      server.userinfoText.toList ++ server.serverText ++ (Path.segmentsText parts).toList := by
    have nonempty : server.userinfoText.toList ++ server.serverText ≠ [] := by
      simp [Authority.serverText, isServer.host.filled]
    obtain ⟨first, others, shape⟩ := List.exists_cons_of_ne_nil nonempty
    have noSeparator : Path.isSeparator true first = false :=
      Authority.isSeparator_of_mem isServer (by rw [shape]; exact List.mem_cons_self)
    rw [afterScheme, shape, List.cons_append, List.dropWhile_cons_of_pos (by rfl),
      List.dropWhile_cons_of_pos (by rfl), List.dropWhile_cons_of_neg (by simp [noSeparator])]
  have noFile : scheme ≠ "file" := by
    rintro rfl
    exact absurd web (by decide)
  rw [parse, trimmed, splitScheme?_web web]
  dsimp only
  rw [if_neg noFile, if_pos special, Tail.ofText_of_not_mem fun c isMark member =>
    (inside c member).2 isMark, Tail.withoutBreaks]
  dsimp only
  have begins : (Path.segmentsText parts).toList = [] ∨
      ∃ rest, (Path.segmentsText parts).toList = '/' :: rest := by
    obtain ⟨first, others, rfl⟩ := List.exists_cons_of_ne_nil filled
    exact .inr ⟨_, by rw [Path.toList_segmentsText, List.flatMap_cons, List.cons_append]⟩
  rw [noBreaks, dropped, parseWithAuthority, special, Authority.ofText_parts isServer begins]
  dsimp only
  rw [Authority.parseAuthority_parts isServer special, Authority.parts,
    Path.parse_segmentsText filled plain]
  cases Host.parseSpecial server.host.text.toList with
  | error fault => rfl
  | ok host => rfl

/-! ### The base of the endpoints -/

theorem mem_dropSlashes {c : Char} (noSlash : c ≠ '/') {text : String} :
    c ∈ (dropSlashes text).toList ↔ c ∈ text.toList := by
  rw [toList_dropSlashes, List.mem_reverse]
  constructor
  · exact fun member => List.mem_reverse.mp ((List.dropWhile_sublist _).subset member)
  · exact fun member =>
      Text.mem_dropWhile_of_not (List.mem_reverse.mpr member) (by simpa using noSlash)

/-- Marks in the text of a URL are those of its query and its fragment. -/
theorem none_of_not_mem_text (noMark : ∀ c ∈ tailMarks, c ∉ url.text.toList) :
    url.query = none ∧ url.fragment = none := by
  constructor
  · cases isQuery : url.query with
    | none => rfl
    | some query =>
        refine absurd ?_ (noMark '?' (by decide))
        simp [text, queryText, isQuery]
  · cases isFragment : url.fragment with
    | none => rfl
    | some fragment =>
        refine absurd ?_ (noMark '#' (by decide))
        simp [text, fragmentText, isFragment]

private theorem text_of_none (isServer : IsOfServer url server parts)
    (noTail : url.query = none ∧ url.fragment = none) :
    url.text = textOf url.scheme server parts := by
  simp [text, textOf, authorityText, guardText, queryText, fragmentText, isServer.authority,
    isServer.path, noTail, Path.text]

/-- Only slashes of the path stand at the end of the text of a server. -/
theorem dropSlashes_textOf (isServer : server.IsOfServer scheme) {kept : List String}
    (drops : dropSlashes (Path.segmentsText parts) = Path.segmentsText kept) :
    dropSlashes (textOf scheme server parts) = textOf scheme server kept := by
  have noSlash : (scheme ++ ":" ++ server.text).toList.getLast? ≠ some '/' := by
    have nonempty : server.userinfoText.toList ++ server.serverText ≠ [] := by
      simp [Authority.serverText, isServer.host.filled]
    rw [String.toList_append, Authority.toList_text, List.getLast?_append,
      List.getLast?_cons_of_ne_nil (List.cons_ne_nil _ _), List.getLast?_cons_of_ne_nil nonempty,
      List.getLast?_eq_some_getLast nonempty, Option.some_or]
    intro isSlash
    have inServer := List.getLast_mem nonempty
    rw [Option.some.inj isSlash] at inServer
    exact (Authority.inside_of_mem isServer inServer).2 (by decide)
  rw [textOf, dropSlashes_append noSlash, drops]
  rfl

private theorem textOf_append (scheme : String) (server : Authority) (parts more : List String) :
    textOf scheme server parts ++ Path.segmentsText more =
      textOf scheme server (parts ++ more) := by
  rw [textOf, textOf, Path.segmentsText_append, String.append_assoc]

/-! ### Endpoints -/

/-- A URL where an endpoint of the server at an origin is to lie: under `/api`, which follows the
path of the origin. -/
structure IsEndpoint (origin : Url) (endpoint : String) (url : Url) : Prop where
  scheme : url.scheme = origin.scheme
  host : url.authority.map Authority.host = origin.authority.map Authority.host
  port : url.authority.map Authority.port = origin.authority.map Authority.port
  path : url.path.text = dropSlashes origin.path.text ++ "/api" ++ endpoint
  query : url.query = none
  fragment : url.fragment = none

variable {origin : String} {client : Client} {segments : List String}

private theorem url_of_new (created : Client.new origin = .ok client) (endpoint : String) :
    ∃ url, parse origin = .ok url ∧
      client.url endpoint = dropSlashes url.text ++ "/api" ++ endpoint := by
  unfold Client.new at created
  split at created
  case h_1 baseUrl isBase =>
    cases created
    obtain ⟨url, read, rfl⟩ := exists_of_map_eq_ok isBase
    exact ⟨url, read, rfl⟩
  case h_2 => cases created

/-- Without query and fragment, an endpoint is read as the server of the origin, as far as its
host reads back, and as the path that was meant. -/
theorem parse_endpoint (isServer : IsOfServer url server parts) (web : url.scheme ∈ webSchemes)
    (noTail : url.query = none ∧ url.fragment = none)
    (plain : ∀ segment ∈ segments, Path.IsPlain segment) :
    ∃ path : Path, path.text = dropSlashes url.path.text ++ "/api" ++ Path.segmentsText segments ∧
      parse (dropSlashes url.text ++ "/api" ++ Path.segmentsText segments) =
        (Host.parseSpecial server.host.text.toList).map fun host =>
          ⟨url.scheme, some { server with host := host }, path, none, none⟩ := by
  obtain ⟨kept, plainKept, drops⟩ := dropSlashes_segmentsText isServer.plain
  have api : "/api" = Path.segmentsText ["api"] := by decide
  have plainApi : Path.IsPlain "api" := by decide
  have plainAll : ∀ segment ∈ kept ++ ["api"] ++ segments, Path.IsPlain segment :=
    List.forall_mem_append.mpr
      ⟨List.forall_mem_append.mpr ⟨plainKept, List.forall_mem_singleton.mpr plainApi⟩, plain⟩
  refine ⟨.segments (kept ++ ["api"] ++ segments), ?_, ?_⟩
  · rw [isServer.path, Path.text, Path.text, drops, api, ← Path.segmentsText_append,
      ← Path.segmentsText_append]
  · rw [text_of_none isServer noTail, dropSlashes_textOf isServer.server drops, api,
      textOf_append, textOf_append]
    exact parse_textOf web isServer.server (by simp) plainAll

/-- An endpoint lies where it is to lie if and only if the origin has neither query nor fragment
and its host reads back. -/
theorem exists_isEndpoint_iff_readsBack (isServer : IsOfServer url server parts)
    (web : url.scheme ∈ webSchemes) (plain : ∀ segment ∈ segments, Path.IsPlain segment) :
    (∃ found, parse (dropSlashes url.text ++ "/api" ++ Path.segmentsText segments) = .ok found ∧
        IsEndpoint url (Path.segmentsText segments) found) ↔
      url.query = none ∧ url.fragment = none ∧ server.host.ReadsBack := by
  constructor
  · rintro ⟨found, read, endpoint⟩
    -- A mark in the text of the origin would begin a query or a fragment of the endpoint.
    have noMark := (none_iff_of_parse read).mp ⟨endpoint.query, endpoint.fragment⟩
    have noTail : url.query = none ∧ url.fragment = none := by
      refine none_of_not_mem_text fun c isMark member => noMark c isMark ?_
      have noSlash : ∀ d ∈ tailMarks, d ≠ '/' := List.all_iff_forall_prop.mp (by decide)
      rw [String.toList_append, String.toList_append, List.mem_append, List.mem_append,
        mem_dropSlashes (noSlash c isMark)]
      exact .inl (.inl member)
    obtain ⟨path, -, whole⟩ := parse_endpoint isServer web noTail plain
    rw [whole] at read
    obtain ⟨host, isHost, rfl⟩ := exists_of_map_eq_ok read
    have same := endpoint.host
    rw [isServer.authority, Option.map_some, Option.map_some, Option.some.injEq] at same
    refine ⟨noTail.1, noTail.2, ?_⟩
    rw [Host.ReadsBack, isHost]
    exact congrArg Except.ok same
  · rintro ⟨noQuery, noFragment, readsBack⟩
    obtain ⟨path, isPath, whole⟩ := parse_endpoint isServer web ⟨noQuery, noFragment⟩ plain
    rw [readsBack] at whole
    exact ⟨_, whole, rfl, by rw [isServer.authority], by rw [isServer.authority], isPath, rfl, rfl⟩

/-- An endpoint of a server on the web lies under `/api` of the origin if and only if the origin
has neither query nor fragment and the Punycode of its host can be read. The endpoint is written
after the whole text of the origin, so that a query or a fragment takes it in. -/
theorem exists_isEndpoint_iff (created : Client.new origin = .ok client)
    (read : parse origin = .ok url) (web : url.scheme ∈ webSchemes)
    (plain : ∀ segment ∈ segments, Path.IsPlain segment) :
    (∃ found, parse (client.url (Path.segmentsText segments)) = .ok found ∧
        IsEndpoint url (Path.segmentsText segments) found) ↔
      url.query = none ∧ url.fragment = none ∧
        ∀ server, url.authority = some server → server.host.IsReadable := by
  obtain ⟨same, readAgain, isUrl⟩ := url_of_new created (Path.segmentsText segments)
  rw [read] at readAgain
  cases readAgain
  obtain ⟨server, parts, isServer⟩ := isOfServer_of_parse read web
  rw [isUrl, exists_isEndpoint_iff_readsBack isServer web plain, isServer.host.readsBack_iff]
  simp [isServer.authority]

/-- The URLs of two origins, one with a path and one with a query. -/
def originWithPath : Url :=
  ⟨"http", some ⟨"u", "", .name "lab", none⟩, .segments ["base", "", ""], none, none⟩

def originWithQuery : Url :=
  ⟨"http", some ⟨"", "", .name "h", some 1⟩, .segments [""], some "x=1", none⟩

theorem isEndpoint_of_path_not_query :
    (∃ found, parse "http://u@lab/base/api/health" = .ok found ∧
      IsEndpoint originWithPath "/health" found) ∧
    ¬∃ found, parse "http://h:1/?x=1/api/health" = .ok found ∧
      IsEndpoint originWithQuery "/health" found := by
  have plain : ∀ segment ∈ ["health"], Path.IsPlain segment :=
    List.forall_mem_singleton.mpr (by decide)
  constructor
  · have created : Client.new "HTTP://u@LAB:80/base//" = .ok ⟨"http://u@lab/base/api"⟩ := by decide
    have read : parse "HTTP://u@LAB:80/base//" = .ok originWithPath := by decide
    refine (exists_isEndpoint_iff created read (by decide) plain).mpr ⟨rfl, rfl, ?_⟩
    rintro server isServer
    cases isServer
    have readable : ∀ label ∈ labels "lab".toList, IsReadable label := by decide
    exact readable
  · have created : Client.new "http://h:1/?x=1" = .ok ⟨"http://h:1/?x=1/api"⟩ := by decide
    have read : parse "http://h:1/?x=1" = .ok originWithQuery := by decide
    intro lies
    have noQuery := ((exists_isEndpoint_iff created read (by decide) plain).mp lies).1
    cases noQuery

end EventConsole.Url
