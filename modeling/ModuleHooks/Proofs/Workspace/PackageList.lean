import Mathlib.Data.List.Basic
import Mathlib.Data.List.TakeWhile
import ModuleHooks.Proofs.Pieces
import ModuleHooks.Workspace.PackageList

/-!
The list of package patterns is read from every description that it is written in (`parse_lists`): as an indented
sequence or in brackets, with quotes or without, among comments, blank lines and other entries.
-/
namespace ModuleHooks

/-! ## Descriptions -/

namespace Text

/-- A text in lines, each of which ends in one of two ways. The last one need not, unless it is empty. -/
inductive InLines : List Text → Text → Prop
  | nil : InLines [] []
  | last {line : Text} (written : line ≠ []) (unbroken : '\n' ∉ line ∧ '\r' ∉ line) : InLines [line] line
  | cons {line mark s : Text} {lines : List Text} (unbroken : '\n' ∉ line ∧ '\r' ∉ line)
      (ends : mark = ['\n'] ∨ mark = ['\r', '\n']) (rest : InLines lines s) :
      InLines (line :: lines) (line ++ (mark ++ s))

end Text

namespace PackageList

/-- Nothing but spaces and tabs. -/
def IsGap (s : Text) : Prop := ∀ c ∈ s, c = ' ' ∨ c = '\t'

/-- What a line may end in: a gap, and behind it a comment. -/
inductive IsEnding : Text → Prop
  | gap {s : Text} (gap : IsGap s) : IsEnding s
  | comment {s : Text} (gap : IsGap s) (apart : s ≠ []) (text : Text) : IsEnding (s ++ '#' :: text)

/-- A line without an entry: a gap, and a comment. -/
inductive IsRemark : Text → Prop
  | gap {line : Text} (gap : IsGap line) : IsRemark line
  | comment {s : Text} (gap : IsGap s) (text : Text) : IsRemark (s ++ '#' :: text)

/-- The patterns that need no care to be written. -/
structure IsPattern (p : Text) : Prop where
  written : p ≠ []
  undashed : p.head? ≠ some '-'
  plain : ∀ c ∈ p, isBlank c = false ∧ c ∉ ['\'', '"', '#', ',', '[', ']']

/-- How a pattern is written. A backslash is not itself between double quotes. -/
inductive IsScalar (p : Text) : Text → Prop
  | plain : IsScalar p p
  | single : IsScalar p ('\'' :: (p ++ ['\'']))
  | double (unescaped : '\\' ∉ p) : IsScalar p ('"' :: (p ++ ['"']))

/-- The lines of a sequence of patterns, with remarks in between. -/
inductive IsBlock (indent : Nat) : List Text → List Text → Prop
  | nil : IsBlock indent [] []
  | remark {line : Text} {patterns lines : List Text} (remark : IsRemark line)
      (rest : IsBlock indent patterns lines) : IsBlock indent patterns (line :: lines)
  | item {p gap scalar ending : Text} {patterns lines : List Text} (pattern : IsPattern p)
      (spaced : IsGap gap) (apart : gap ≠ []) (written : IsScalar p scalar) (ended : IsEnding ending)
      (rest : IsBlock indent patterns lines) :
      IsBlock indent (p :: patterns) ((List.replicate indent ' ' ++ '-' :: (gap ++ scalar ++ ending)) :: lines)

/-- What stands in the brackets around patterns. -/
inductive IsFlow : List Text → Text → Prop
  | nil {gap : Text} (spaced : IsGap gap) : IsFlow [] gap
  | last {p front scalar back : Text} (pattern : IsPattern p) (before : IsGap front) (written : IsScalar p scalar)
      (behind : IsGap back) : IsFlow [p] (front ++ scalar ++ back)
  | cons {p front scalar back s : Text} {patterns : List Text} (pattern : IsPattern p) (before : IsGap front)
      (written : IsScalar p scalar) (behind : IsGap back) (rest : IsFlow patterns s) :
      IsFlow (p :: patterns) (front ++ scalar ++ back ++ ',' :: s)

/-- A line of another entry. A key that only starts like that of the list goes on, and not with a bracket. -/
def IsOther (line : Text) : Prop :=
  ∀ rest, line = key ++ rest → ∃ c more, rest = c :: more ∧ isBlank c = false ∧ c ≠ '['

/-- The lines behind the list: none, or another entry at the top and all that follows. -/
inductive IsRest : List Text → Prop
  | nil : IsRest []
  | entry {c : Char} {line : Text} {lines : List Text} (top : isBlank c = false) (code : c ≠ '#')
      (unlisted : c = '-' → ∃ d more, line = d :: more ∧ isBlank d = false)
      (others : ∀ other ∈ (c :: line) :: lines, IsOther other) : IsRest ((c :: line) :: lines)

/-- The lines of a description that lists the patterns, in an indented sequence or in brackets. -/
inductive Lists (indent : Nat) (patterns : List Text) : List Text → Prop
  | block {before items after : List Text} {ending : Text} (others : ∀ line ∈ before, IsOther line)
      (ended : IsEnding ending) (listed : IsBlock indent patterns items) (rest : IsRest after) :
      Lists indent patterns (before ++ (key ++ ending) :: (items ++ after))
  | flow {before remarks after : List Text} {gap inside ending : Text} (others : ∀ line ∈ before, IsOther line)
      (spaced : IsGap gap) (apart : gap ≠ []) (listed : IsFlow patterns inside) (ended : IsEnding ending)
      (passed : ∀ line ∈ remarks, IsRemark line) (rest : IsRest after) :
      Lists indent patterns
        (before ++ (key ++ (gap ++ '[' :: (inside ++ [']']) ++ ending)) :: (remarks ++ after))

end PackageList

/-! ## Lines -/

theorem Text.InLines.lines_eq {lines : List Text} {s : Text} (text : Text.InLines lines s) : Text.lines s = lines := by
  induction text with
  | nil => rfl
  | @last line written unbroken =>
    rw [Text.lines, Text.splitAt_of_notMem unbroken.1]
    simpa [Text.linesOf] using written
  | @cons line mark s lines unbroken ends rest ih =>
    obtain ⟨piece, pieces, cut⟩ := List.exists_cons_of_ne_nil (Text.splitAt_ne_nil '\n' s)
    rw [Text.lines, cut] at ih
    obtain rfl | rfl := ends
    · have uncut : Text.before? ['\r'] line = none := by
        cases before : Text.before? ['\r'] line with
        | none => rfl
        | some front =>
          refine absurd ?_ unbroken.2
          rw [Text.append_of_before? before]
          simp
      rw [Text.lines, List.singleton_append, Text.splitAt_append_mark, Text.splitAt_of_notMem unbroken.1, cut,
        List.singleton_append, Text.linesOf, ih, uncut]
      · rfl
      · simp
    · have whole : line ++ (['\r', '\n'] ++ s) = (line ++ ['\r']) ++ '\n' :: s := by simp
      have inside : '\n' ∉ line ++ ['\r'] := by simp [unbroken.1]
      rw [Text.lines, whole, Text.splitAt_append_mark, Text.splitAt_of_notMem inside, cut, List.singleton_append,
        Text.linesOf, ih, Text.before?_append]
      · rfl
      · simp

/-- Lines that all end alike. -/
theorem Text.inLines_flatMap {lines : List Text} (unbroken : ∀ line ∈ lines, '\n' ∉ line ∧ '\r' ∉ line) :
    Text.InLines lines (lines.flatMap (· ++ ['\n'])) := by
  induction lines with
  | nil => exact .nil
  | cons line lines ih =>
    obtain ⟨here, rest⟩ := List.forall_mem_cons.1 unbroken
    rw [List.flatMap_cons, List.append_assoc]
    exact .cons here (.inl rfl) (ih rest)

namespace PackageList

/-! ## Comments -/

theorem dropComment_of_notMem {s : Text} (plain : '#' ∉ s) (fresh : Bool) : dropComment fresh s = s := by
  induction s generalizing fresh with
  | nil => rfl
  | cons c s ih =>
    obtain ⟨other, rest⟩ := not_or.1 (mt List.mem_cons.2 plain)
    unfold dropComment
    rw [ih rest]
    simp [Ne.symm other]

/-- Whether a comment may follow is a matter of the character in front of it. -/
theorem dropComment_append {s : Text} (plain : '#' ∉ s) (fresh : Bool) {b : Char} (other : b ≠ '#') (t : Text) :
    dropComment fresh (s ++ b :: t) = s ++ b :: dropComment (isSpacing b) t := by
  induction s generalizing fresh with
  | nil => simp [dropComment, other]
  | cons c s ih =>
    obtain ⟨first, rest⟩ := not_or.1 (mt List.mem_cons.2 plain)
    rw [List.cons_append, dropComment, ih rest]
    simp [Ne.symm first]

theorem IsGap.blank {s : Text} (gap : IsGap s) : ∀ c ∈ s, isBlank c = true := by
  intro c member
  obtain rfl | rfl := gap c member <;> rfl

/-- There are no marks in a gap. -/
theorem IsGap.notMem {s : Text} (gap : IsGap s) {c : Char} (mark : isBlank c = false) : c ∉ s := by
  intro member
  rw [gap.blank c member] at mark
  exact nomatch mark

theorem IsGap.plain {s : Text} (gap : IsGap s) : '#' ∉ s := gap.notMem rfl

/-- A comment at the end of a line goes, and the gap in front of it stays. -/
theorem dropComment_ending {s e : Text} (plain : '#' ∉ s) (ending : IsEnding e) :
    ∃ gap, IsGap gap ∧ dropComment true (s ++ e) = s ++ gap := by
  cases ending with
  | gap gap => exact ⟨e, gap, dropComment_of_notMem (by simp [plain, gap.plain]) true⟩
  | @comment t gap apart text =>
    refine ⟨t, gap, ?_⟩
    obtain rfl | ⟨front, b, rfl⟩ := t.eq_nil_or_concat
    · exact absurd rfl apart
    · have last : b = ' ' ∨ b = '\t' := gap b (by simp)
      have front' : '#' ∉ front := fun member => gap.plain (by simp [member])
      have kept := dropComment_append (s := s ++ front) (by simp [plain, front']) true (b := b)
        (by obtain rfl | rfl := last <;> decide) ('#' :: text)
      have spacing : isSpacing b = true := by obtain rfl | rfl := last <;> rfl
      have dropped : dropComment (isSpacing b) ('#' :: text) = [] := by simp [dropComment, spacing]
      rw [dropped] at kept
      simpa using kept

/-- Nothing but a gap is left of a remark. -/
theorem dropComment_remark {line : Text} (remark : IsRemark line) : IsGap (dropComment true line) := by
  cases remark with
  | gap gap =>
    rw [dropComment_of_notMem gap.plain]
    exact gap
  | @comment s gap text =>
    obtain rfl | ⟨front, b, rfl⟩ := s.eq_nil_or_concat
    · exact nofun
    · have ending : IsEnding (front.concat b ++ '#' :: text) := .comment gap (by simp) text
      obtain ⟨left, isGap, same⟩ := dropComment_ending (s := []) nofun ending
      rw [List.nil_append] at same
      rw [same]
      exact isGap

/-! ## Blanks and quotes -/

theorem trim_of_isBlank {s : Text} (blank : ∀ c ∈ s, isBlank c = true) : Text.trim s = [] := by
  rw [Text.trim, Text.trimStart, List.dropWhile_eq_nil_iff.2 blank]
  rfl

/-- Gaps around a text that starts and ends otherwise are trimmed. -/
theorem trim_surrounded {front s back : Text} (before : IsGap front) (behind : IsGap back)
    (first : ∀ c, s.head? = some c → isBlank c = false) (last : ∀ c, s.getLast? = some c → isBlank c = false)
    (some : s ≠ []) : Text.trim (front ++ s ++ back) = s := by
  have start : Text.trimStart (front ++ s ++ back) = s ++ back := by
    rw [List.append_assoc]
    refine (Text.span_append before.blank fun c head => first c ?_).2
    rwa [List.head?_append_of_ne_nil _ some] at head
  have blank : ∀ c ∈ back.reverse, isBlank c = true := fun c member =>
    behind.blank c (List.mem_reverse.1 member)
  have finish : (back.reverse ++ s.reverse).dropWhile isBlank = s.reverse :=
    (Text.span_append blank fun c head => last c (by rwa [List.head?_reverse] at head)).2
  rw [Text.trim, start, Text.trimEnd, List.reverse_append, finish, List.reverse_reverse]

theorem IsPattern.isQuote {p : Text} (pattern : IsPattern p) : ∀ c ∈ p, isQuote c = false := by
  intro c member
  have other := (pattern.plain c member).2
  simp only [List.mem_cons, List.not_mem_nil, or_false, not_or] at other
  simp [PackageList.isQuote, other.1, other.2.1]

/-- A pattern stands between quotes, or between none. -/
theorem IsScalar.exists_quotes {p s : Text} (scalar : IsScalar p s) :
    ∃ q, (∀ c ∈ q, isQuote c = true ∧ isBlank c = false ∧ c ≠ '#' ∧ c ≠ ',') ∧ s = q ++ p ++ q := by
  cases scalar with
  | plain => exact ⟨[], nofun, by simp⟩
  | single => exact ⟨['\''], List.forall_mem_singleton.2 (by decide), by simp⟩
  | double => exact ⟨['"'], List.forall_mem_singleton.2 (by decide), by simp⟩

/-- What is written for a pattern has neither blanks in it nor marks of the description. -/
theorem IsScalar.plain_of {p s : Text} (scalar : IsScalar p s) (pattern : IsPattern p) :
    s ≠ [] ∧ ∀ c ∈ s, isBlank c = false ∧ c ≠ '#' ∧ c ≠ ',' := by
  obtain ⟨q, quotes, rfl⟩ := scalar.exists_quotes
  refine ⟨by simp [pattern.written], fun c member => ?_⟩
  simp only [List.mem_append] at member
  obtain (quote | inside) | quote := member
  · exact (quotes c quote).2
  · obtain ⟨blank, other⟩ := pattern.plain c inside
    simp only [List.mem_cons, List.not_mem_nil, or_false, not_or] at other
    exact ⟨blank, other.2.2.1, other.2.2.2.1⟩
  · exact (quotes c quote).2

/-- A pattern is read from what is written for it. -/
theorem unquote_scalar {p front s back : Text} (pattern : IsPattern p) (before : IsGap front) (scalar : IsScalar p s)
    (behind : IsGap back) : unquote (front ++ s ++ back) = p := by
  obtain ⟨written, plain⟩ := scalar.plain_of pattern
  have trimmed : Text.trim (front ++ s ++ back) = s :=
    trim_surrounded before behind (fun c head => (plain c (List.mem_of_head? head)).1)
      (fun c last => (plain c (List.mem_of_getLast? last)).1) written
  obtain ⟨q, quotes, rfl⟩ := scalar.exists_quotes
  have opened : (q ++ (p ++ q)).dropWhile isQuote = p ++ q := by
    refine (Text.span_append (fun c member => (quotes c member).1) fun c head => ?_).2
    rw [List.head?_append_of_ne_nil _ pattern.written] at head
    exact pattern.isQuote c (List.mem_of_head? head)
  have closed : (q.reverse ++ p.reverse).dropWhile isQuote = p.reverse :=
    (Text.span_append (fun c member => (quotes c (List.mem_reverse.1 member)).1) fun c head =>
      pattern.isQuote c (List.mem_reverse.1 (List.mem_of_head? head))).2
  rw [unquote, trimmed, List.append_assoc, opened, List.reverse_append, closed, List.reverse_reverse]

/-- What a text starts with is not trimmed unless it is blank. -/
theorem exists_trim_cons {c : Char} (code : isBlank c = false) (s : Text) : ∃ t, Text.trim (c :: s) = c :: t := by
  have start : Text.trimStart (c :: s) = c :: s := List.dropWhile_cons_of_neg (by simp [code])
  rw [Text.trim, start, Text.trimEnd, List.reverse_cons, List.dropWhile_append]
  split
  · exact ⟨[], by simp [code]⟩
  · exact ⟨_, List.reverse_concat⟩

/-! ## Reading lines -/

theorem readLine_remark {line : Text} (remark : IsRemark line) (inList : Bool) :
    readLine inList (dropComment true line) = ([], inList) := by
  unfold readLine
  rw [trim_of_isBlank (dropComment_remark remark).blank]
  rfl

/-- A line at the top is an item of no list. -/
theorem readLine_top {c : Char} (top : isBlank c = false) (s : Text) (inList : Bool) :
    readLine inList (c :: s) =
      match Text.after? key (c :: s) with
      | none => ([], false)
      | some rest =>
        match flowItems? (Text.trim rest) with
        | some items => (items, false)
        | none => ([], (Text.trim rest).isEmpty) := by
  obtain ⟨t, trimmed⟩ := exists_trim_cons top s
  have outside : isIndented (c :: s) = false := by
    have space : c ≠ ' ' := by
      rintro rfl
      exact absurd top (by decide)
    have tab : c ≠ '\t' := by
      rintro rfl
      exact absurd top (by decide)
    simp [isIndented, space, tab]
  unfold readLine
  rw [trimmed, outside]
  rfl

/-- A line with the key of the list. -/
theorem readLine_key (rest : Text) (inList : Bool) :
    readLine inList (key ++ rest) =
      match flowItems? (Text.trim rest) with
      | some items => (items, false)
      | none => ([], (Text.trim rest).isEmpty) := by
  have top := readLine_top (c := 'p') rfl ("ackages:".toList ++ rest) inList
  have after : Text.after? key ('p' :: ("ackages:".toList ++ rest)) = some rest := Text.after?_append key rest
  rw [after] at top
  exact top

theorem readLine_item {indent : Nat} {p gap scalar ending : Text} (positive : 0 < indent) (pattern : IsPattern p)
    (spaced : IsGap gap) (written : IsScalar p scalar) (ended : IsEnding ending) :
    readLine true (dropComment true (List.replicate indent ' ' ++ '-' :: (gap ++ scalar ++ ending))) =
      ([p], true) := by
  obtain ⟨some, plain⟩ := written.plain_of pattern
  have margin : IsGap (List.replicate indent ' ') := fun c member => .inl (List.eq_of_mem_replicate member)
  have code : '#' ∉ List.replicate indent ' ' ++ '-' :: (gap ++ scalar) := by
    have inside : '#' ∉ scalar := fun member => (plain '#' member).2.1 rfl
    simp [margin.plain, spaced.plain, inside]
  obtain ⟨left, isGap, same⟩ := dropComment_ending code ended
  have line : List.replicate indent ' ' ++ '-' :: (gap ++ scalar ++ ending) =
      List.replicate indent ' ' ++ '-' :: (gap ++ scalar) ++ ending := by simp
  have trimmed : Text.trim (List.replicate indent ' ' ++ '-' :: (gap ++ scalar) ++ left) = '-' :: (gap ++ scalar) := by
    refine trim_surrounded margin isGap (fun c first => ?_) (fun c last => ?_) nofun
    · obtain rfl := Option.some.inj first
      rfl
    · rw [← List.cons_append, List.getLast?_append_of_ne_nil _ some] at last
      exact (plain c (List.mem_of_getLast? last)).1
  have indented : isIndented (List.replicate indent ' ' ++ '-' :: (gap ++ scalar) ++ left) = true := by
    obtain ⟨n, rfl⟩ := Nat.exists_eq_succ_of_ne_zero (Nat.ne_of_gt positive)
    rfl
  have item : unquote (gap ++ scalar) = p := by
    have read : unquote (gap ++ scalar ++ []) = p := unquote_scalar pattern spaced written nofun
    rwa [List.append_nil] at read
  rw [line, same]
  unfold readLine
  rw [trimmed, indented]
  have dashed : Text.after? ['-'] ('-' :: (gap ++ scalar)) = Option.some (gap ++ scalar) := Text.after?_append ['-'] _
  simp [dashed, item, pattern.written]

theorem readLine_block {ending : Text} (ended : IsEnding ending) (inList : Bool) :
    readLine inList (dropComment true (key ++ ending)) = ([], true) := by
  obtain ⟨left, isGap, same⟩ := dropComment_ending (s := key) (by decide) ended
  rw [same, readLine_key, trim_of_isBlank isGap.blank]
  rfl

/-- What is written for a pattern in brackets has no marks of the description in it. -/
theorem IsScalar.marks_notMem {front scalar back p : Text} (written : IsScalar p scalar) (pattern : IsPattern p)
    (before : IsGap front) (behind : IsGap back) : ',' ∉ front ++ scalar ++ back ∧ '#' ∉ front ++ scalar ++ back := by
  obtain ⟨-, plain⟩ := written.plain_of pattern
  have comma : ',' ∉ scalar := fun member => (plain _ member).2.2 rfl
  have remark : '#' ∉ scalar := fun member => (plain _ member).2.1 rfl
  constructor
  · simp [before.notMem (c := ',') rfl, behind.notMem (c := ',') rfl, comma]
  · simp [before.plain, behind.plain, remark]

/-- The patterns are read from what stands in the brackets. -/
theorem read_isFlow {patterns : List Text} {inside : Text} (listed : IsFlow patterns inside) :
    ((Text.splitAt ',' inside).map unquote).filter (!·.isEmpty) = patterns ∧ '#' ∉ inside := by
  induction listed with
  | @nil gap spaced =>
    have nothing : unquote gap = [] := by
      rw [unquote, trim_of_isBlank spaced.blank]
      rfl
    rw [Text.splitAt_of_notMem (spaced.notMem rfl)]
    exact ⟨by simp [nothing], spaced.plain⟩
  | last pattern before written behind =>
    obtain ⟨comma, comment⟩ := written.marks_notMem pattern before behind
    rw [Text.splitAt_of_notMem comma, List.map_singleton, unquote_scalar pattern before written behind]
    exact ⟨by simp [pattern.written], comment⟩
  | cons pattern before written behind rest ih =>
    obtain ⟨comma, comment⟩ := written.marks_notMem pattern before behind
    obtain ⟨others, plain⟩ := ih
    rw [Text.splitAt_append_mark, Text.splitAt_of_notMem comma, List.map_append, List.filter_append, others,
      List.map_singleton, unquote_scalar pattern before written behind]
    refine ⟨by simp [pattern.written], ?_⟩
    simpa [plain] using comment

theorem readLine_flow {patterns : List Text} {gap inside ending : Text} (spaced : IsGap gap)
    (listed : IsFlow patterns inside) (ended : IsEnding ending) (inList : Bool) :
    readLine inList (dropComment true (key ++ (gap ++ '[' :: (inside ++ [']']) ++ ending))) = (patterns, false) := by
  obtain ⟨items, plain⟩ := read_isFlow listed
  have code : '#' ∉ key ++ (gap ++ '[' :: (inside ++ [']'])) := by
    have head : '#' ∉ key := by decide
    simp [head, spaced.plain, plain]
  obtain ⟨left, isGap, same⟩ := dropComment_ending code ended
  have line : key ++ (gap ++ '[' :: (inside ++ [']']) ++ ending) =
      key ++ (gap ++ '[' :: (inside ++ [']'])) ++ ending := by simp
  have brackets : Text.trim (gap ++ '[' :: (inside ++ [']']) ++ left) = '[' :: (inside ++ [']']) := by
    refine trim_surrounded spaced isGap (fun c first => ?_) (fun c last => ?_) nofun
    · obtain rfl := Option.some.inj first
      rfl
    · rw [← List.cons_append, List.getLast?_concat] at last
      obtain rfl := Option.some.inj last
      rfl
  have opened : Text.after? ['['] ('[' :: (inside ++ [']'])) = some (inside ++ [']']) := Text.after?_append ['['] _
  have found : flowItems? ('[' :: (inside ++ [']'])) = some patterns := by
    simp only [flowItems?, opened, Option.bind_some, Text.before?_append, Option.bind_eq_bind]
    rw [items]
    rfl
  rw [line, same, List.append_assoc, readLine_key, brackets, found]

/-- A line is what is left of it without a comment, and more. -/
theorem exists_dropComment (fresh : Bool) (line : Text) : ∃ more, line = dropComment fresh line ++ more := by
  induction line generalizing fresh with
  | nil => exact ⟨[], rfl⟩
  | cons c line ih =>
    unfold dropComment
    split
    · exact ⟨c :: line, rfl⟩
    · obtain ⟨more, same⟩ := ih (isSpacing c)
      exact ⟨more, by rw [List.cons_append, ← same]⟩

/-- The line of another entry does not begin a list. -/
theorem readLine_other {c : Char} {s line : Text} (left : dropComment true line = c :: s) (top : isBlank c = false)
    (other : IsOther line) (inList : Bool) : readLine inList (dropComment true line) = ([], false) := by
  rw [left, readLine_top top]
  split
  case h_1 => rfl
  case h_2 rest found =>
    have keyed := Text.append_of_after? found
    obtain ⟨more, whole⟩ := exists_dropComment true line
    rw [left, keyed, List.append_assoc] at whole
    obtain ⟨d, further, same, code, bracket⟩ := other _ whole
    -- The key is not followed by a comment, so there is no end to it.
    have goes : dropComment true (key ++ d :: further) = key ++ d :: dropComment (isSpacing d) further := by
      have kept := dropComment_append (s := "packages".toList) (by decide) true (b := ':') (by decide) (d :: further)
      have inert : dropComment (isSpacing ':') (d :: further) = d :: dropComment (isSpacing d) further := by
        have apart : isSpacing ':' = false := rfl
        rw [apart, dropComment]
        simp
      rw [inert] at kept
      exact kept
    have behind : rest = d :: dropComment (isSpacing d) further := by
      rw [whole, same, goes, keyed] at left
      exact (List.append_cancel_left left).symm
    obtain ⟨t, trimmed⟩ := exists_trim_cons code (dropComment (isSpacing d) further)
    have unbracketed : Text.after? ['['] (d :: t) = none := if_neg (by simpa using Ne.symm bracket)
    rw [behind, trimmed]
    simp [flowItems?, unbracketed]

/-- Outside of the list the lines of other entries say nothing, wherever they stand. -/
theorem readLine_outside {line : Text} (other : IsOther line) :
    readLine false (dropComment true line) = ([], false) := by
  cases left : dropComment true line with
  | nil => rfl
  | cons c s =>
    cases blank : isBlank c with
    | false =>
      rw [← left]
      exact readLine_other left blank other false
    | true =>
      have unkeyed : Text.after? key (c :: s) = none := by
        cases found : Text.after? key (c :: s) with
        | none => rfl
        | some rest =>
          have first : c = 'p' := (List.cons.inj (Text.append_of_after? found)).1
          rw [first] at blank
          exact absurd blank (by decide)
      unfold readLine
      rw [unkeyed]
      simp

/-! ## Reading descriptions -/

theorem readLines_others {before : List Text} (others : ∀ line ∈ before, IsOther line) (lines : List Text) :
    readLines false (before ++ lines) = readLines false lines := by
  induction before with
  | nil => rfl
  | cons line before ih =>
    obtain ⟨here, rest⟩ := List.forall_mem_cons.1 others
    rw [List.cons_append, readLines, readLine_outside here]
    exact ih rest

theorem readLines_remarks {remarks : List Text} (passed : ∀ line ∈ remarks, IsRemark line) (inList : Bool)
    (lines : List Text) : readLines inList (remarks ++ lines) = readLines inList lines := by
  induction remarks with
  | nil => rfl
  | cons line remarks ih =>
    obtain ⟨here, rest⟩ := List.forall_mem_cons.1 passed
    rw [List.cons_append, readLines, readLine_remark here]
    exact ih rest

/-- The lines of a sequence give its patterns, and more items may follow. -/
theorem readLines_block {indent : Nat} (positive : 0 < indent) {patterns items : List Text}
    (listed : IsBlock indent patterns items) (lines : List Text) :
    readLines true (items ++ lines) = patterns ++ readLines true lines := by
  induction listed with
  | nil => rfl
  | remark remark rest ih =>
    rw [List.cons_append, readLines, readLine_remark remark]
    exact ih
  | item pattern spaced apart written ended rest ih =>
    rw [List.cons_append, readLines, readLine_item positive pattern spaced written ended]
    exact congrArg _ ih

theorem readLines_rest {lines : List Text} (rest : IsRest lines) (inList : Bool) : readLines inList lines = [] := by
  cases rest with
  | nil => rfl
  | @entry c line lines top code unlisted others =>
    obtain ⟨here, below⟩ := List.forall_mem_cons.1 others
    have left : dropComment true (c :: line) = c :: dropComment (isSpacing c) line := by simp [dropComment, code]
    rw [readLines, readLine_other left top here]
    have nothing := readLines_others below []
    rw [List.append_nil] at nothing
    exact nothing

/-- The patterns of a list are read from every description that has it, in order, if the items of a sequence are
indented. -/
theorem parse_lists {indent : Nat} (positive : 0 < indent) {patterns lines : List Text} {source : Text}
    (listed : Lists indent patterns lines) (text : Text.InLines lines source) : parse source = patterns := by
  rw [parse, text.lines_eq]
  cases listed with
  | block others ended listed rest =>
    rw [readLines_others others, readLines, readLine_block ended]
    dsimp only
    rw [List.nil_append, readLines_block positive listed, readLines_rest rest, List.append_nil]
  | flow others spaced apart listed ended passed rest =>
    rw [readLines_others others, readLines, readLine_flow spaced listed ended]
    dsimp only
    rw [readLines_remarks passed, readLines_rest rest, List.append_nil]

theorem isPattern_apps : IsPattern "apps/*".toList := ⟨by decide, by decide, List.forall_iff_forall_mem.1 (by decide)⟩

/-- A list with a comment, a blank line and another entry behind it. -/
theorem parse_lists_remarked :
    let lines := ["packages:".toList, "  - 'apps/*' # ours".toList, [], "catalog: x".toList]
    Lists 2 ["apps/*".toList] lines ∧
      Text.InLines lines "packages:\n  - 'apps/*' # ours\n\ncatalog: x\n".toList ∧
      parse "packages:\n  - 'apps/*' # ours\n\ncatalog: x\n".toList = ["apps/*".toList] := by
  intro lines
  have spaced : IsGap [' '] := List.forall_mem_singleton.2 (.inl rfl)
  have written : IsBlock 2 ["apps/*".toList] ["  - 'apps/*' # ours".toList, []] :=
    .item isPattern_apps spaced nofun .single (.comment spaced nofun " ours".toList) (.remark (.gap nofun) .nil)
  have other : IsOther "catalog: x".toList := by
    intro rest same
    exact absurd (List.cons.inj same).1 (by decide)
  have rest : IsRest ["catalog: x".toList] :=
    .entry (by decide) (by decide) nofun (List.forall_mem_singleton.2 other)
  have bare : IsEnding [] := .gap nofun
  have listed : Lists 2 ["apps/*".toList] lines := @Lists.block _ _ [] _ _ _ nofun bare written rest
  have text : Text.InLines lines "packages:\n  - 'apps/*' # ours\n\ncatalog: x\n".toList :=
    Text.inLines_flatMap (by decide)
  exact ⟨listed, text, parse_lists (by decide) listed text⟩

/-- Items that are not indented are not read. -/
theorem parse_unindented :
    let lines := ["packages:".toList, "- apps/*".toList]
    Lists 0 ["apps/*".toList] lines ∧ Text.InLines lines "packages:\n- apps/*\n".toList ∧
      parse "packages:\n- apps/*\n".toList = [] := by
  intro lines
  have spaced : IsGap [' '] := List.forall_mem_singleton.2 (.inl rfl)
  have bare : IsEnding [] := .gap nofun
  have written : IsBlock 0 ["apps/*".toList] ["- apps/*".toList] :=
    .item isPattern_apps spaced nofun .plain bare .nil
  have listed : Lists 0 ["apps/*".toList] lines := @Lists.block _ _ [] _ _ _ nofun bare written .nil
  have text : Text.InLines lines "packages:\n- apps/*\n".toList := Text.inLines_flatMap (by decide)
  exact ⟨listed, text, by decide⟩

end PackageList
end ModuleHooks
