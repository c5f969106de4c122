import Infochart.Proofs.Property.Line
import Infochart.Proofs.Property.Map

/-!
# Reading a description line by line

Reading is a run over the lines: `Parsed.step_eq` says what one line adds to what has been read and
`Parsed.steps_eq` what a run of them adds. Of a whole description this leaves three lists, all taken
from its `readings` alone: the entries, the problems and the notices (`parse_eq`).

`FollowsFormat` is the format of property lines as a statement about a text and a result. That
reading meets it is the last theorem here, together with the two laws that follow: texts joined by a
line feed read as one description laid over the other, and the kind of line end is never seen.
-/

namespace Infochart
namespace Property

/-! ## What a line adds -/

/-- The entry that a line makes. -/
def Line.entry? : Line → Option (Id × Value)
  | .entry id value => some (id, decodeValue value)
  | _ => none

/-- What is wrong with a line. -/
def Line.error? : Line → Option LineError
  | .malformed e => some e
  | _ => none

/-- The notice that a line gives rise to, where it is line `n` of its text. -/
def Line.notice? (n : Nat) : Line → Option Notice
  | .entry _ value => if isUndecoded value then some (.undecodedArray n) else none
  | _ => none

/-- The entries of lines, in order. -/
def entriesOf (ks : List Line) : List (Id × Value) :=
  ks.filterMap Line.entry?

/-- The problems of lines, the first of which has the given number. -/
def problemsFrom (n : Nat) (ks : List Line) : List Problem :=
  (ks.zipIdx n).filterMap fun (k, i) => k.error?.map (.line i)

/-- The notices of lines, the first of which has the given number. -/
def noticesFrom (n : Nat) (ks : List Line) : List Notice :=
  (ks.zipIdx n).filterMap fun (k, i) => k.notice? i

/-- What has been read, with lines taken into it. -/
def Parsed.extend (p : Parsed) (n : Nat) (ks : List Line) : Parsed where
  map := p.map.insertAll (entriesOf ks)
  problems := p.problems ++ problemsFrom n ks
  notices := p.notices ++ noticesFrom n ks

theorem entriesOf_append (ks ls : List Line) :
    entriesOf (ks ++ ls) = entriesOf ks ++ entriesOf ls :=
  List.filterMap_append

theorem problemsFrom_append (n : Nat) (ks ls : List Line) :
    problemsFrom n (ks ++ ls) = problemsFrom n ks ++ problemsFrom (n + ks.length) ls := by
  simp [problemsFrom, List.zipIdx_append]

theorem noticesFrom_append (n : Nat) (ks ls : List Line) :
    noticesFrom n (ks ++ ls) = noticesFrom n ks ++ noticesFrom (n + ks.length) ls := by
  simp [noticesFrom, List.zipIdx_append]

theorem Parsed.extend_append (p : Parsed) (n : Nat) (ks ls : List Line) :
    p.extend n (ks ++ ls) = (p.extend n ks).extend (n + ks.length) ls := by
  simp only [extend, entriesOf_append, problemsFrom_append, noticesFrom_append,
    Map.insertAll_append, List.append_assoc]

@[simp] theorem entriesOf_singleton (k : Line) : entriesOf [k] = k.entry?.toList := by
  cases h : k.entry? with
  | none => simp [entriesOf, h]
  | some e => simp [entriesOf, h]

@[simp] theorem problemsFrom_singleton (n : Nat) (k : Line) :
    problemsFrom n [k] = (k.error?.map (Problem.line n)).toList := by
  cases h : k.error? with
  | none => simp [problemsFrom, h]
  | some e => simp [problemsFrom, h]

@[simp] theorem noticesFrom_singleton (n : Nat) (k : Line) :
    noticesFrom n [k] = (k.notice? n).toList := by
  cases h : k.notice? n with
  | none => simp [noticesFrom, h]
  | some e => simp [noticesFrom, h]

/-- One line. -/
theorem Parsed.step_eq (p : Parsed) (n : Nat) (s : List Char) :
    p.step n s = p.extend n [Line.read s] := by
  unfold step extend
  rw [entriesOf_singleton, problemsFrom_singleton, noticesFrom_singleton]
  cases Line.read s with
  | blank => simp [Line.entry?, Line.error?, Line.notice?, Map.insertAll]
  | malformed e => simp [Line.entry?, Line.error?, Line.notice?, Map.insertAll]
  | entry id value =>
    by_cases h : isUndecoded value = true
    · simp [Line.entry?, Line.error?, Line.notice?, Map.insertAll, h]
    · simp [Line.entry?, Line.error?, Line.notice?, Map.insertAll, h]

/-- A run of lines. -/
theorem Parsed.steps_eq (p : Parsed) (n : Nat) (ls : List (List Char)) :
    p.steps n ls = p.extend n (ls.map Line.read) := by
  induction ls generalizing p n with
  | nil => simp [steps, extend, entriesOf, problemsFrom, noticesFrom, Map.insertAll]
  | cons l r ih =>
    -- The accumulator is extended by one line and then by the rest, which begins one number later.
    have hcons : p.extend n (Line.read l :: r.map Line.read) =
        (p.extend n [Line.read l]).extend (n + 1) (r.map Line.read) :=
      p.extend_append n [Line.read l] (r.map Line.read)
    rw [steps, step_eq, ih, List.map_cons, hcons]

/-- Nothing read yet. -/
def Parsed.none : Parsed := ⟨.empty, [], []⟩

/-- **A description is read from its readings alone.** -/
theorem parse_eq {s : List Char} (h : Text.allBlank s = false) :
    parse s = Parsed.none.extend 1 (readings s) := by
  unfold parse
  rw [h]
  exact Parsed.steps_eq _ 1 (Text.cut s)

theorem map_parse {s : List Char} (h : Text.allBlank s = false) :
    (parse s).map = Map.empty.insertAll (entriesOf (readings s)) := by
  rw [parse_eq h]
  rfl

theorem problems_parse {s : List Char} (h : Text.allBlank s = false) :
    (parse s).problems = problemsFrom 1 (readings s) := by
  rw [parse_eq h]
  rfl

/-! ## Problems -/

/-- The reason why a line is malformed, in words. -/
def LineError.reason : LineError → String
  | .missingComma => "missing comma separator"
  | .badId token => "invalid ID '" ++ token ++ "' (ID must be exactly 3 digits)"

/-- The messages that the malformed lines call for, where the first line has the given number. -/
def messagesFrom (n : Nat) (ks : List Line) : List String :=
  (ks.zipIdx n).filterMap fun (k, i) =>
    k.error?.map fun e => "line " ++ toString i ++ ": " ++ e.reason

theorem message_line (n : Nat) (e : LineError) :
    (Problem.line n e).message = "line " ++ toString n ++ ": " ++ e.reason := by
  cases e with
  | missingComma =>
    simp only [Problem.message, LineError.reason, String.append_assoc]
    rfl
  | badId token =>
    simp only [Problem.message, LineError.reason, String.append_assoc]
    rfl

theorem map_message_problemsFrom (n : Nat) (ks : List Line) :
    (problemsFrom n ks).map Problem.message = messagesFrom n ks := by
  unfold problemsFrom messagesFrom
  rw [List.map_filterMap]
  refine List.filterMap_congr fun p _ => ?_
  obtain ⟨k, i⟩ := p
  dsimp only
  cases k.error? with
  | none => rfl
  | some e => exact congrArg some (message_line i e)

/-- A problem of a text that stands `k` lines further down. -/
def Problem.shift (k : Nat) : Problem → Problem
  | .noInput => .noInput
  | .line n e => .line (n + k) e

theorem map_shift_problemsFrom (n k : Nat) (ks : List Line) :
    (problemsFrom n ks).map (Problem.shift k) = problemsFrom (n + k) ks := by
  induction ks generalizing n with
  | nil => rfl
  | cons l r ih =>
    rw [← List.singleton_append, problemsFrom_append, problemsFrom_append, List.map_append, ih]
    have hnum : n + [l].length + k = n + k + [l].length := by omega
    rw [hnum]
    congr 1
    cases he : l.error? with
    | none => simp [he]
    | some e => simp [he, Problem.shift]

theorem problemsFrom_eq_nil_iff {n : Nat} {ks : List Line} :
    problemsFrom n ks = [] ↔ ∀ k ∈ ks, k.error? = none := by
  induction ks generalizing n with
  | nil => simp [problemsFrom]
  | cons l r ih =>
    rw [← List.singleton_append, problemsFrom_append, List.append_eq_nil_iff, ih]
    cases he : l.error? with
    | none => simp [he]
    | some e => simp [he]

/-! ## The format -/

/-- The format of property lines, said of a text, the kinds of its lines and a result of reading it:
    the last entry of an identifier gives its value, the first one its place, and every malformed
    line is reported under its number. -/
structure FollowsFormat (s : List Char) (ks : List Line) (p : Parsed) : Prop where
  lines : List.Forall₂ Reads (Text.physicalLines s) ks
  value : ∀ id, p.map.get? id = lookup id (entriesOf ks).reverse
  order : p.map.keys = ((entriesOf ks).map Prod.fst).eraseDups
  errors : p.problems.map Problem.message = messagesFrom 1 ks
  valid : p.isValid = true ↔ ∀ k ∈ ks, k.error? = none

theorem forall₂_reads (ls : List (List Char)) : List.Forall₂ Reads ls (ls.map Line.read) := by
  induction ls with
  | nil => exact .nil
  | cons l r ih => exact .cons (reads_read l) ih

theorem parse_followsFormat {s : List Char} (h : Text.allBlank s = false) :
    FollowsFormat s (readings s) (parse s) where
  lines := by
    unfold readings
    rw [← Text.cut_eq_physicalLines]
    exact forall₂_reads _
  value id := by
    rw [map_parse h, Map.get?_insertAll, Map.get?_empty, Option.or_none]
  order := by
    rw [map_parse h, Map.keys_insertAll, Map.keys_empty, List.nil_append]
  errors := by
    rw [problems_parse h, map_message_problemsFrom]
  valid := by
    unfold Parsed.isValid
    rw [problems_parse h, List.isEmpty_iff, problemsFrom_eq_nil_iff]

/-! ## Joined texts and line ends -/

theorem allBlank_join {a b : List Char} (h : Text.allBlank a = false) :
    Text.allBlank (a ++ '\n' :: b) = false := by
  rw [← Bool.not_eq_true] at h ⊢
  rw [Text.allBlank_append]
  exact fun hb => h hb.1

theorem map_parse_join {a b : List Char} (ha : Text.allBlank a = false)
    (hb : Text.allBlank b = false) :
    (parse (a ++ '\n' :: b)).map = (parse a).map.overlay (parse b).map := by
  rw [map_parse (allBlank_join ha), map_parse ha, map_parse hb, readings_append, entriesOf_append,
    Map.insertAll_empty_append]

theorem problems_parse_join {a b : List Char} (ha : Text.allBlank a = false)
    (hb : Text.allBlank b = false) :
    (parse (a ++ '\n' :: b)).problems =
      (parse a).problems ++ (parse b).problems.map (Problem.shift (Text.physicalLines a).length) := by
  have hlen : (readings a).length = (Text.physicalLines a).length := by
    rw [← Text.cut_eq_physicalLines, readings, List.length_map]
  rw [problems_parse (allBlank_join ha), problems_parse ha, problems_parse hb, readings_append,
    problemsFrom_append, map_shift_problemsFrom, hlen]

theorem allBlank_withReturns (s : List Char) :
    Text.allBlank (Text.withReturns s) = Text.allBlank s := by
  induction s with
  | nil => rfl
  | cons c r ih =>
    unfold Text.withReturns Text.allBlank at *
    rw [List.flatMap_cons, List.all_append, ih, List.all_cons]
    by_cases hc : c = '\n'
    · subst hc
      rfl
    · simp [hc]

theorem parse_withReturns (s : List Char) : parse (Text.withReturns s) = parse s := by
  by_cases h : Text.allBlank s = true
  · have h' : Text.allBlank (Text.withReturns s) = true := by rw [allBlank_withReturns, h]
    unfold parse
    rw [h, h']
    rfl
  · rw [Bool.not_eq_true] at h
    rw [parse_eq h, parse_eq (by rw [allBlank_withReturns, h]), readings_withReturns]

/-- **Reading meets the format of property lines.** Every text that is not blank is read as the format
    says. Two such texts joined by a line feed read as the second description laid over the first,
    with the problems of the second moved down by the lines of the first; and a carriage return in
    front of every line feed changes nothing. -/
theorem read_follows_format :
    (∀ s : String, Text.allBlank s.toList = false → ∃ ks, FollowsFormat s.toList ks (read s)) ∧
    (∀ a b : String, Text.allBlank a.toList = false → Text.allBlank b.toList = false →
      (read (a ++ "\n" ++ b)).map = (read a).map.overlay (read b).map ∧
      (read (a ++ "\n" ++ b)).problems =
        (read a).problems ++
          (read b).problems.map (Problem.shift (Text.physicalLines a.toList).length)) ∧
    ∀ s : String, read (String.ofList (Text.withReturns s.toList)) = read s := by
  refine ⟨fun s hs => ⟨readings s.toList, parse_followsFormat hs⟩, fun a b ha hb => ?_, fun s => ?_⟩
  · have hjoin : (a ++ "\n" ++ b).toList = a.toList ++ '\n' :: b.toList := by simp
    unfold read
    rw [hjoin]
    exact ⟨map_parse_join ha hb, problems_parse_join ha hb⟩
  · unfold read
    rw [String.toList_ofList]
    exact parse_withReturns s.toList

/-- A description with a repeated identifier, a blank line and a malformed one, below another. -/
theorem read_follows_format_joined :
    (∃ ks, FollowsFormat "101,Pie\r\n\nx\n101,Bar".toList ks (read "101,Pie\r\n\nx\n101,Bar")) ∧
    (read ("401,Sales" ++ "\n" ++ "101,Pie\r\n\nx\n101,Bar")).map =
      (read "401,Sales").map.overlay (read "101,Pie\r\n\nx\n101,Bar").map ∧
    (read ("401,Sales" ++ "\n" ++ "101,Pie\r\n\nx\n101,Bar")).problems =
      (read "401,Sales").problems ++
        (read "101,Pie\r\n\nx\n101,Bar").problems.map
          (Problem.shift (Text.physicalLines "401,Sales".toList).length) ∧
    read (String.ofList (Text.withReturns "101,Pie\n\nx".toList)) = read "101,Pie\n\nx" :=
  ⟨read_follows_format.1 _ (by decide),
    (read_follows_format.2.1 _ _ (by decide) (by decide)).1,
    (read_follows_format.2.1 _ _ (by decide) (by decide)).2,
    read_follows_format.2.2 _⟩

end Property
end Infochart
