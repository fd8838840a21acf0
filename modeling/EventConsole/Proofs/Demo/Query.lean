import EventConsole.Console.Tasks
import EventConsole.Demo.Server
import EventConsole.Proofs.Demo.Access
import EventConsole.Proofs.SortedMap
import EventConsole.Proofs.Text.Decimal
import EventConsole.Proofs.Text.Utf8
import EventConsole.Proofs.Url.PercentEncoding
import Mathlib.Data.List.TakeDrop
import Mathlib.Data.List.TakeWhile

/-!
Contract: the server reads from a request for a page what the console wrote
into it.

Owns: the target of such a request, its way through the query, and the page
request at its end.

Does not own: the answer (`Demo.Page`).
-/

namespace EventConsole.Demo

/-- The path and query with which the console asks for a page. -/
def fetchTarget (fetch : EventBrowser.Fetch) : String := "/api" ++ Console.endpoint (.events fetch)

/-! ### Plain text in a query -/

theorem queryText_plain {text : List Char} (noPercent : '%' ∉ text) (noPlus : '+' ∉ text) :
    queryText text = String.ofList text := by
  have unchanged : text.map (fun c => if c = '+' then ' ' else c) = text := by
    refine (List.map_congr_left fun c member => ?_).trans (List.map_id text)
    have notPlus : c ≠ '+' := fun isPlus => noPlus (by rwa [isPlus] at member)
    exact if_neg notPlus
  unfold queryText
  rw [unchanged, Url.percentDecode_plain noPercent, Text.Utf8.decodeLossy_encode]

/-! ### Splitting -/

theorem splitTarget_of_notMem {path query : List Char} (noFragment : '#' ∉ path ++ '?' :: query)
    (noMark : '?' ∉ path) :
    splitTarget (String.ofList (path ++ '?' :: query)) = (path, query) := by
  have whole : (path ++ '?' :: query).takeWhile (· ≠ '#') = path ++ '?' :: query :=
    List.takeWhile_eq_self_iff.mpr fun c member =>
      decide_eq_true fun isMark => noFragment (isMark ▸ member)
  simp only [splitTarget, String.toList_ofList, whole, span_of_notMem noMark, List.drop_one,
    List.tail_cons]

/-- Characters with a meaning of their own in a query. -/
def queryMarks : List Char := ['#', '?', '&', '=', '%', '+']

theorem mark_notMem_toDigits {mark : Char} (isMark : mark ∈ queryMarks) (n : Nat) :
    mark ∉ Nat.toDigits 10 n := by
  have noDigits : queryMarks.all (fun c => !Text.isDecimalDigit c) = true := rfl
  have noDigit : Text.isDecimalDigit mark = false :=
    Bool.not_eq_true' _ |>.mp (List.all_eq_true.mp noDigits mark isMark)
  intro member
  have digit := Text.decimalDigit_of_mem member
  rw [noDigit] at digit
  contradiction

/-- A number as the value of a parameter. -/
def numberPart (name : String) (n : Nat) : List Char := name.toList ++ '=' :: Nat.toDigits 10 n

private theorem mark_notMem_numberPart {mark : Char} {name : String} (isMark : mark ∈ queryMarks)
    (notEqual : mark ≠ '=') (notInName : mark ∉ name.toList) (n : Nat) :
    mark ∉ numberPart name n := by
  simp [numberPart, notEqual, notInName, mark_notMem_toDigits isMark n]

private theorem queryText_toDigits (n : Nat) : queryText (Nat.toDigits 10 n) = toString n := by
  rw [queryText_plain (mark_notMem_toDigits (by decide) n) (mark_notMem_toDigits (by decide) n)]
  exact Nat.toString_eq_ofList_toDigits.symm

/-! ### The query of a page -/

/-- The query that asks for a page. -/
def pageQuery (page limit : Nat) : List Char :=
  numberPart "page" page ++ '&' :: numberPart "limit" limit

theorem splitTarget_fetchTarget (fetch : EventBrowser.Fetch) :
    splitTarget (fetchTarget fetch) =
      ("/api/events".toList, pageQuery fetch.page.toNat fetch.limit.toNat) := by
  have spelled : fetchTarget fetch =
      String.ofList ("/api/events".toList ++
        '?' :: pageQuery fetch.page.toNat fetch.limit.toNat) := by
    apply String.toList_injective
    simp [fetchTarget, Console.endpoint, Client.eventsEndpoint, pageQuery, numberPart]
  have noFragment (name : String) (notInName : '#' ∉ name.toList) (n : Nat) :
      '#' ∉ numberPart name n :=
    mark_notMem_numberPart (by decide) (by decide) notInName n
  rw [spelled]
  apply splitTarget_of_notMem
  · rw [List.mem_append, List.mem_cons, pageQuery, List.mem_append, List.mem_cons]
    rintro (inPath | isMark | inPage | isMark | inLimit)
    · exact absurd inPath (by decide)
    · exact absurd isMark (by decide)
    · exact noFragment "page" (by decide) _ inPage
    · exact absurd isMark (by decide)
    · exact noFragment "limit" (by decide) _ inLimit
  · decide

/-- The parameters of the query of a page. -/
theorem queryParameters_pageQuery (page limit : Nat) :
    queryParameters (pageQuery page limit) =
      SortedMap.ofList [("page", toString page), ("limit", toString limit)] := by
  have noJoint (name : String) (notInName : '&' ∉ name.toList) (n : Nat) :
      '&' ∉ numberPart name n :=
    mark_notMem_numberPart (by decide) (by decide) notInName n
  have parts : (pageQuery page limit).splitOn '&' =
      [numberPart "page" page, numberPart "limit" limit] := by
    rw [pageQuery, List.splitOn_append_cons_self_of_not_mem (noJoint "page" (by decide) page),
      List.splitOn_eq_singleton (noJoint "limit" (by decide) limit)]
  have filled (name : String) (n : Nat) : (numberPart name n).isEmpty = false := by
    simp [numberPart]
  have divided (name : String) (noEqual : '=' ∉ name.toList) (n : Nat) :
      (numberPart name n).span (· ≠ '=') = (name.toList, '=' :: Nat.toDigits 10 n) :=
    span_of_notMem noEqual _
  have pageName : queryText "page".toList = "page" := by
    rw [queryText_plain (by decide) (by decide), String.ofList_toList]
  have limitName : queryText "limit".toList = "limit" := by
    rw [queryText_plain (by decide) (by decide), String.ofList_toList]
  simp only [queryParameters, parts, List.filter_cons, filled, Bool.not_false, if_true,
    List.filter_nil, List.map_cons, List.map_nil, divided "page" (by decide),
    divided "limit" (by decide), List.drop_one, List.tail_cons, pageName, limitName,
    queryText_toDigits]

/-! ### The page request -/

theorem positive?_toString {n : Nat} (positive : 1 ≤ n) (below : n < powerOf 2 63) :
    PageRequest.positive? (some (toString n)) = some n := by
  simp only [PageRequest.positive?, Option.bind_some, Text.signed64?_trim_toString below]
  rw [if_pos (by omega)]
  rfl

/-- A page that the console asks for is the page that the server looks up; the
server honours sizes up to its maximum. -/
theorem ofParameters_fetchTarget {fetch : EventBrowser.Fetch} (page : 1 ≤ fetch.page)
    (limit : 1 ≤ fetch.limit) :
    PageRequest.ofParameters (queryParameters (splitTarget (fetchTarget fetch)).2) =
      ⟨fetch.page.toNat, min fetch.limit.toNat PageRequest.maximumLimit⟩ := by
  have pagePositive : 1 ≤ fetch.page.toNat := UInt32.le_iff_toNat_le.mp page
  have limitPositive : 1 ≤ fetch.limit.toNat := UInt32.le_iff_toNat_le.mp limit
  have small (word : UInt32) : word.toNat < powerOf 2 63 :=
    Nat.lt_trans word.toNat_lt (by decide)
  have pageText : (queryParameters (pageQuery fetch.page.toNat fetch.limit.toNat)).get? "page" =
      some (toString fetch.page.toNat) := by
    rw [queryParameters_pageQuery]
    have different : "page" ≠ "limit" := by decide
    exact (SortedMap.get?_insert_of_ne _ _ different).trans (SortedMap.get?_insert_self _ _ _)
  have limitText : (queryParameters (pageQuery fetch.page.toNat fetch.limit.toNat)).get? "limit" =
      some (toString fetch.limit.toNat) := by
    rw [queryParameters_pageQuery]
    exact SortedMap.get?_insert_self _ _ _
  simp only [splitTarget_fetchTarget, PageRequest.ofParameters, pageText, limitText,
    positive?_toString pagePositive (small _), positive?_toString limitPositive (small _),
    Option.getD_some]

end EventConsole.Demo
