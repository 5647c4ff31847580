import Mathlib.Algebra.BigOperators.Group.List.Basic
import Mathlib.Data.List.Nodup
import ModuleHooks.Proofs.FileSystem.Layered
import ModuleHooks.Proofs.Glob.Segments
import ModuleHooks.Proofs.Glob.Visits
import ModuleHooks.Proofs.Path.Order
import ModuleHooks.Proofs.Path.Relative

/-!
The files that an absolute pattern names. Going down a pattern only adds pieces to the text of a path
(`keeps_under`), so of the names in a directory only one leads to a given file, and the file is met as often as
the segments that are left take the names that are left (`met_expand`, `countsVisits`). What is listed is
therefore what fits the pattern, in the order of paths, each file once for each way in which it fits; it is
written in its normal form unless a segment that is not the last one matches the dots of a directory
(`files?_ofNames`).
-/
namespace ModuleHooks.Glob

open ModuleHooks.Path

/-- The tokens of a segment. -/
def tokensOf (segment : Text) : List GlobToken := (parse? segment).getD []

/-- A segment of a pattern. -/
structure IsSegment (segment : Text) : Prop where
  name : IsName segment
  parses : (parse? segment).isSome = true

instance (segment : Text) : Decidable (IsSegment segment) :=
  decidable_of_iff (IsName segment ∧ (parse? segment).isSome = true)
    ⟨fun ⟨name, parses⟩ => ⟨name, parses⟩, fun h => ⟨h.name, h.parses⟩⟩

/-- The segment does not match the names of the directory itself and of the one above it, which are compared
with what begins with a dot. -/
def AvoidsDots (segment : Text) : Prop :=
  segment.head? = some '.' → matchText segment ['.'] = false ∧ matchText segment ['.', '.'] = false

instance (segment : Text) : Decidable (AvoidsDots segment) := inferInstanceAs (Decidable (_ → _))

namespace IsSegment

variable {segment name : Text}

theorem parse? (good : IsSegment segment) : parse? segment = some (tokensOf segment) := by
  obtain ⟨tokens, parsed⟩ := Option.isSome_iff_exists.1 good.parses
  rw [tokensOf, parsed, Option.getD_some]

theorem covers_tokensOf (good : IsSegment segment) (name : Text) :
    covers (tokensOf segment) name = matchText segment name := by
  rw [matchText, good.parse?]

theorem isDirectories_tokensOf (good : IsSegment segment) :
    isDirectories (tokensOf segment) = true ↔ segment = anyNames := by
  unfold isDirectories
  rw [List.contains_iff_mem]
  constructor
  · exact eq_anyNames good.parse? good.name.unmarked
  · rintro rfl
    decide

theorem dotNames_tokensOf (good : IsSegment segment) (avoids : AvoidsDots segment) :
    dotNames (tokensOf segment) = [] := by
  unfold dotNames
  split
  case isFalse => rfl
  case isTrue dotted =>
    obtain ⟨here, above⟩ := avoids (head?_of_parse? good.parse? dotted)
    rw [List.filter_cons_of_neg, List.filter_cons_of_neg, List.filter_nil]
    · rw [good.covers_tokensOf, above]
      exact Bool.false_ne_true
    · rw [good.covers_tokensOf, here]
      exact Bool.false_ne_true

theorem of_literal? (good : IsSegment segment) (literal : literal? (tokensOf segment) = some name) :
    name = segment ∧ segment ≠ anyNames ∧ ∀ n, matchText segment n = true ↔ n = segment := by
  obtain rfl := eq_of_literal? good.parse? literal
  have tokens := literal?_eq_some_iff.1 literal
  refine ⟨rfl, fun stars => ?_, fun n => ?_⟩
  · rw [stars] at tokens
    exact nomatch tokens
  · have matched := matchTokens_literal name [] n
    rw [List.append_nil, ← tokens, ← covers_eq, good.covers_tokensOf] at matched
    rw [matched]
    simp [matchTokens]

end IsSegment

theorem isSegment_of_literal {name : Text} (named : IsName name) (literal : IsLiteral name) : IsSegment name where
  name := named
  parses := by rw [parse?_literal literal, Option.isSome_some]

/-- A name without wildcards matches itself only. -/
theorem avoidsDots_of_literal {name : Text} (named : IsName name) (literal : IsLiteral name) :
    AvoidsDots name := by
  have here : ['.'] ≠ name := by
    rintro rfl
    exact nomatch named.named
  refine fun _ => ⟨?_, ?_⟩
  · exact Bool.eq_false_iff.2 fun matched => here ((matchText_literal literal _).1 matched)
  · exact Bool.eq_false_iff.2 fun matched => named.down ((matchText_literal literal _).1 matched).symm

theorem isDots_of_mem_dotNames {component : List GlobToken} {t : Text} (member : t ∈ dotNames component) :
    IsDots t := by
  unfold dotNames at member
  split at member
  · simpa [IsDots] using List.mem_of_mem_filter member
  · exact nomatch member

/-! ## Going down -/

variable {fs : FileSystem} {segment name : Text} {segments names more : List Text}

theorem isPiece_of_isName (proper : ∀ n ∈ names, IsName n) : ∀ n ∈ names, IsPiece n :=
  fun n member => (proper n member).isPiece

/-- The path is that of some pieces behind the given ones, or of these themselves. -/
def Under (names : List Text) (path : Path) : Prop :=
  ∃ below, (∀ n ∈ below, IsPiece n) ∧ path = ofNames true (names ++ below)

theorem under_self (names : List Text) : Under names (ofNames true names) :=
  ⟨[], nofun, by rw [List.append_nil]⟩

theorem under_ofNames (pieces : ∀ n ∈ names, IsPiece n) (proper : ∀ n ∈ more, IsName n)
    (under : Under names (ofNames true more)) : ∃ below, more = names ++ below := by
  obtain ⟨below, piecesBelow, same⟩ := under
  exact ⟨below, ofNames_inj (isPiece_of_isName proper) (List.forall_mem_append.2 ⟨pieces, piecesBelow⟩) same⟩

theorem nameIn_of_isAbsolute {p : Path} (absolute : p.isAbsolute = true) (name : Text) :
    nameIn p name = p.child name := by
  have apart : p.same startDirectory = false := by
    have started : startDirectory.components = [.here] := rfl
    rw [same, components_of_isAbsolute absolute, started]
    rfl
  rw [nameIn, apart, if_neg Bool.false_ne_true]

theorem nameIn_ofNames (pieces : ∀ n ∈ names, IsPiece n) (piece : IsPiece name) :
    nameIn (ofNames true names) name = ofNames true (names ++ [name]) :=
  (nameIn_of_isAbsolute rfl name).trans (child_ofPieces pieces piece)

theorem isName_of_mem_namesIn {directory : Path} (member : name ∈ fs.namesIn directory) : IsName name := by
  obtain ⟨entry, -, last⟩ := List.mem_filterMap.1 member
  unfold fileName? at last
  split at last
  case h_1 n found => exact Option.some.inj last ▸ isName_of_mem_components (List.mem_of_getLast? found)
  case h_2 => exact nomatch last

/-- The components are those of segments. -/
def AreSegments (components : List (List GlobToken)) : Prop :=
  ∃ segments : List Text, (∀ s ∈ segments, IsSegment s) ∧ components = segments.map tokensOf

/-- They only add pieces to a path. -/
theorem keeps_under (fs : FileSystem) (pieces : ∀ n ∈ names, IsPiece n) :
    Keeps fs (Under names) (Under names) AreSegments := by
  have step {directory : Path} {name : Text} (under : Under names directory) (piece : IsPiece name) :
      Under names (directory.child name) := by
    obtain ⟨below, piecesBelow, rfl⟩ := under
    refine ⟨below ++ [name], List.forall_mem_append.2 ⟨piecesBelow, List.forall_mem_singleton.2 piece⟩, ?_⟩
    rw [child_ofPieces (List.forall_mem_append.2 ⟨pieces, piecesBelow⟩) piece, List.append_assoc]
  have stepIn {directory : Path} {name : Text} (under : Under names directory) (named : IsName name) :
      Under names (nameIn directory name) := by
    have absolute : directory.isAbsolute = true := by
      obtain ⟨below, -, rfl⟩ := under
      rfl
    rw [nameIn_of_isAbsolute absolute]
    exact step under named.isPiece
  constructor
  case behind =>
    rintro component components ⟨segments, good, same⟩
    obtain ⟨segment, rest, rfl, -, rfl⟩ := List.map_eq_cons_iff.1 same.symm
    exact ⟨rest, (List.forall_mem_cons.1 good).2, rfl⟩
  case literal =>
    rintro directory component components name ⟨segments, good, same⟩ under spelled
    obtain ⟨segment, rest, rfl, rfl, -⟩ := List.map_eq_cons_iff.1 same.symm
    obtain ⟨rfl, -⟩ := (good segment List.mem_cons_self).of_literal? spelled
    exact stepIn under (good name List.mem_cons_self).name
  case listed => exact fun under member => stepIn under (isName_of_mem_namesIn member)
  case dots => exact fun _ under member => step under (isDots_of_mem_dotNames member).isPiece
  case lastDots => exact fun under _ member => step under (isDots_of_mem_dotNames member).isPiece
  case reached => exact id

/-- The visit goes on below the path of the names. -/
def Stays (names : List Text) : Visit → Prop := Visit.Holds (Under names) (Under names) AreSegments

theorem under_of_visit {fuel : Nat} {v : Visit} {path : Path} (pieces : ∀ n ∈ names, IsPiece n)
    (stays : Stays names v) (member : path ∈ visit fs fuel v) : Under names path :=
  (keeps_under fs pieces).visit stays path member

/-- A segment without wildcards is followed. -/
theorem expand_tokensOf_literal (proper : ∀ n ∈ names, IsName n) (good : IsSegment segment)
    (literal : literal? (tokensOf segment) = some segment) (components : List (List GlobToken)) :
    expand fs (tokensOf segment :: components) (ofNames true names) =
      if fs.hasPath (ofNames true (names ++ [segment])) then
        follow fs components (ofNames true (names ++ [segment]))
      else [] := by
  have named : segment ≠ ['.'] := by
    rintro rfl
    exact nomatch good.name.named
  rw [expand_literal literal, nameIn_ofNames (isPiece_of_isName proper) good.name.isPiece]
  simp only [named, good.name.down, or_self, false_and, not_false_eq_true, true_and, false_or]

/-- Any other segment is put aside at each name of the directory, and followed by its dots. -/
theorem expand_tokensOf_wild (proper : ∀ n ∈ names, IsName n)
    (wild : literal? (tokensOf segment) = none) (components : List (List GlobToken)) :
    expand fs (tokensOf segment :: components) (ofNames true names) =
      if fs.isDirectory (ofNames true names) then
        ((fs.namesIn (ofNames true names)).reverse.map fun name =>
          .pending (ofNames true (names ++ [name])) (tokensOf segment :: components)) ++
            (dotNames (tokensOf segment)).flatMap fun dots => follow fs components (ofNames true (names ++ [dots]))
      else [] := by
  have pieces := isPiece_of_isName proper
  rw [expand_wild wild]
  refine if_congr Iff.rfl (congrArg₂ (· ++ ·) (List.map_congr_left fun name member => ?_)
    (List.flatMap_congr fun dots member => ?_)) rfl
  · rw [nameIn_ofNames pieces (isName_of_mem_namesIn (List.mem_reverse.1 member)).isPiece]
  · rw [child_ofPieces pieces (isDots_of_mem_dotNames member).isPiece]

/-- What is followed at a piece stays below it. -/
theorem stays_of_mem_follow {path : Path} (under : Under names path) (pieces : ∀ n ∈ names, IsPiece n)
    (good : ∀ s ∈ segments, IsSegment s) :
    ∀ v ∈ follow fs (segments.map tokensOf) path, Stays names v :=
  (keeps_under fs pieces).follow ⟨segments, good, rfl⟩ under

theorem isPiece_concat (proper : ∀ n ∈ names, IsName n) (piece : IsPiece name) :
    ∀ n ∈ names ++ [name], IsPiece n :=
  List.forall_mem_append.2 ⟨isPiece_of_isName proper, List.forall_mem_singleton.2 piece⟩

/-- What is put aside at a directory lies below a piece in it. -/
theorem stays_of_mem_expand (proper : ∀ n ∈ names, IsName n) (good : ∀ s ∈ segments, IsSegment s) {v : Visit}
    (member : v ∈ expand fs (segments.map tokensOf) (ofNames true names)) :
    ∃ piece, IsPiece piece ∧ Stays (names ++ [piece]) v := by
  cases segments with
  | nil => exact nomatch member
  | cons segment segments =>
    obtain ⟨first, others⟩ := List.forall_mem_cons.1 good
    have follow {piece : Text} (isPiece : IsPiece piece)
        (member : v ∈ follow fs (segments.map tokensOf) (ofNames true (names ++ [piece]))) :
        ∃ piece, IsPiece piece ∧ Stays (names ++ [piece]) v :=
      ⟨piece, isPiece, stays_of_mem_follow (under_self _) (isPiece_concat proper isPiece) others v member⟩
    rw [List.map_cons] at member
    cases literal : literal? (tokensOf segment) with
    | some name =>
      obtain ⟨rfl, -⟩ := first.of_literal? literal
      rw [expand_tokensOf_literal proper first literal] at member
      split at member
      · exact follow first.name.isPiece member
      · exact nomatch member
    | none =>
      rw [expand_tokensOf_wild proper literal] at member
      split at member
      · rcases List.mem_append.1 member with aside | dotted
        · obtain ⟨name, inside, rfl⟩ := List.mem_map.1 aside
          exact ⟨name, (isName_of_mem_namesIn (List.mem_reverse.1 inside)).isPiece, under_self _,
            segment :: segments, good, rfl⟩
        · obtain ⟨dots, inside, member⟩ := List.mem_flatMap.1 dotted
          exact follow (isDots_of_mem_dotNames inside).isPiece member
      · exact nomatch member

/-! ## Visits -/

theorem afterDirectories_tokensOf (good : ∀ s ∈ segments, IsSegment s) :
    afterDirectories (tokensOf anyNames) (segments.map tokensOf) =
      (tokensOf anyNames, (segments.dropWhile (· == anyNames)).map tokensOf) := by
  induction segments with
  | nil => rfl
  | cons segment segments ih =>
    obtain ⟨first, others⟩ := List.forall_mem_cons.1 good
    rw [List.map_cons, afterDirectories]
    by_cases stars : segment = anyNames
    · rw [if_pos (first.isDirectories_tokensOf.2 stars), stars, ih others, List.dropWhile_cons_of_pos (by simp)]
    · rw [if_neg (mt first.isDirectories_tokensOf.1 stars), List.dropWhile_cons_of_neg (by simpa using stars)]
      rfl

/-- What two stars lead to below the path itself. -/
def starsBelow (fs : FileSystem) (path : Path) (segments : List Text) : List Visit :=
  if fs.isDirectory path then expand fs ((anyNames :: segments).map tokensOf) path else []

theorem visit_stars {fuel : Nat} {path : Path} (good : ∀ s ∈ segments, IsSegment s) :
    visit fs (fuel + 1) (.pending path ((anyNames :: segments).map tokensOf)) =
      let rest := segments.dropWhile (· == anyNames)
      if rest.isEmpty then
        (if fs.isDirectory path then [path] else []) ++ (starsBelow fs path rest).reverse.flatMap (visit fs fuel)
      else
        (compareName fs path (rest.map tokensOf)).1.toList ++
          (starsBelow fs path rest ++ (compareName fs path (rest.map tokensOf)).2).reverse.flatMap
            (visit fs fuel) := by
  rw [List.map_cons, visit_directories (by decide), afterDirectories_tokensOf good]
  simp only [List.isEmpty_map]
  rfl

/-! ## Counting -/

/-- How often what is put aside leads to a path. -/
def met (fs : FileSystem) (fuel : Nat) (visits : List Visit) (path : Path) : Nat :=
  (visits.reverse.flatMap (visit fs fuel)).count path

theorem met_nil (fuel : Nat) (path : Path) : met fs fuel [] path = 0 := rfl

theorem met_append (fuel : Nat) (visits others : List Visit) (path : Path) :
    met fs fuel (visits ++ others) path = met fs fuel visits path + met fs fuel others path := by
  unfold met
  rw [List.reverse_append, List.flatMap_append, List.count_append, Nat.add_comm]

/-- Visits below pieces that are not in front of the names do not lead to their path. -/
theorem count_visit_eq_zero {fuel : Nat} {v : Visit} (pieces : ∀ n ∈ names, IsPiece n)
    (proper : ∀ n ∈ more, IsName n) (stays : Stays names v) (elsewhere : ¬∃ below, more = names ++ below) :
    (visit fs fuel v).count (ofNames true more) = 0 :=
  List.count_eq_zero_of_not_mem fun found =>
    elsewhere (under_ofNames pieces proper (under_of_visit pieces stays found))

theorem met_eq_zero {fuel : Nat} {visits : List Visit} (proper : ∀ n ∈ more, IsName n)
    (stays : ∀ v ∈ visits, ∃ names : List Text, (∀ n ∈ names, IsPiece n) ∧ Stays names v ∧
      ¬∃ below, more = names ++ below) :
    met fs fuel visits (ofNames true more) = 0 := by
  refine List.count_eq_zero_of_not_mem fun member => ?_
  obtain ⟨v, inside, found⟩ := List.mem_flatMap.1 member
  obtain ⟨names, pieces, below, elsewhere⟩ := stays v (List.mem_reverse.1 inside)
  exact List.count_eq_zero.1 (count_visit_eq_zero pieces proper below elsewhere) found

/-- The path of a name is that of the file if no names are left. -/
theorem count_path (proper : ∀ n ∈ names ++ name :: more, IsName n) :
    [ofNames true (names ++ [name])].count (ofNames true (names ++ name :: more)) =
      if more.isEmpty then 1 else 0 := by
  cases more with
  | nil => rw [List.count_singleton_self, List.isEmpty_nil, if_pos rfl]
  | cons next more =>
    rw [List.count_singleton, if_neg]
    · rfl
    · intro same
      have properFirst : ∀ n ∈ names ++ [name], IsName n := fun n member => proper n (by
        rw [List.append_cons]
        exact List.mem_append_left _ member)
      simpa using ofNames_inj (isPiece_of_isName properFirst) (isPiece_of_isName proper) (beq_iff_eq.1 same)

/-- A file is met through its name in a directory as often as the segments take that name and the others. -/
def CountsVisits (fs : FileSystem) (fuel : Nat) : Prop :=
  ∀ (names : List Text) (name : Text) (more segments : List Text), (∀ n ∈ names ++ name :: more, IsName n) →
    fs.isFile (ofNames true (names ++ name :: more)) = true → (∀ s ∈ segments, IsSegment s) → more.length < fuel →
      (visit fs fuel (.pending (ofNames true (names ++ [name])) (segments.map tokensOf))).count
        (ofNames true (names ++ name :: more)) = ways segments (name :: more)

/-- The dots of a directory do not lead to a file written by names. -/
theorem met_dots {fuel : Nat} (proper : ∀ n ∈ names ++ name :: more, IsName n)
    (good : ∀ s ∈ segments, IsSegment s) :
    met fs fuel ((dotNames (tokensOf segment)).flatMap fun dots =>
      follow fs (segments.map tokensOf) (ofNames true (names ++ [dots])))
      (ofNames true (names ++ name :: more)) = 0 := by
  obtain ⟨properNames, properMore⟩ := List.forall_mem_append.1 proper
  refine met_eq_zero proper fun v member => ?_
  obtain ⟨dots, inside, member⟩ := List.mem_flatMap.1 member
  have isDots := isDots_of_mem_dotNames inside
  have pieces := isPiece_concat properNames isDots.isPiece
  have apart : name ≠ dots := fun same => isDots.not_isName (same ▸ properMore name List.mem_cons_self)
  exact ⟨names ++ [dots], pieces, stays_of_mem_follow (under_self _) pieces good v member, by simp [apart]⟩

/-- Of the names in a directory only that of the file leads to it. -/
theorem met_expand_wild (layered : fs.IsLayered) {fuel : Nat} (counts : CountsVisits fs fuel)
    (proper : ∀ n ∈ names ++ name :: more, IsName n)
    (file : fs.isFile (ofNames true (names ++ name :: more)) = true)
    (good : ∀ s ∈ segment :: segments, IsSegment s) (wild : literal? (tokensOf segment) = none)
    (enough : more.length < fuel) :
    met fs fuel (expand fs ((segment :: segments).map tokensOf) (ofNames true names))
      (ofNames true (names ++ name :: more)) = ways (segment :: segments) (name :: more) := by
  obtain ⟨properNames, properMore⟩ := List.forall_mem_append.1 proper
  have there : fs.hasPath (ofNames true (names ++ name :: more)) = true := Bool.or_eq_true_iff.2 (.inl file)
  have properFirst : ∀ n ∈ names ++ [name], IsName n :=
    List.forall_mem_append.2 ⟨properNames, List.forall_mem_singleton.2 (properMore name List.mem_cons_self)⟩
  have directory := layered.isDirectory_of_append proper (List.cons_ne_nil name more) there
  have member := layered.mem_namesIn properFirst (layered.hasPath_of_append proper there)
  have once := @List.count_eq_one_of_mem _ instBEqOfDecidableEq _ _ _ (layered.nodup_namesIn properNames) member
  rw [List.map_cons, expand_tokensOf_wild properNames wild, if_pos directory, met_append,
    met_dots proper (List.forall_mem_cons.1 good).2, Nat.add_zero, met, List.map_reverse, List.reverse_reverse,
    List.flatMap_map, List.count_flatMap, List.sum_map_eq_nsmul_single name, once, one_nsmul]
  · exact counts names name more (segment :: segments) proper file good enough
  · intro other apart inside
    have pieces := isPiece_concat properNames (isName_of_mem_namesIn inside).isPiece
    have stays : Stays (names ++ [other])
        (.pending (ofNames true (names ++ [other])) (tokensOf segment :: segments.map tokensOf)) :=
      ⟨under_self _, segment :: segments, good, rfl⟩
    exact count_visit_eq_zero pieces proper stays (by simp [Ne.symm apart])

/-- Then it is met from the directory as often as the segments take the names from there. -/
theorem met_expand (layered : fs.IsLayered) {fuel : Nat} (counts : CountsVisits fs fuel)
    (proper : ∀ n ∈ names ++ more, IsName n) (file : fs.isFile (ofNames true (names ++ more)) = true)
    (good : ∀ s ∈ segments, IsSegment s) (enough : more.length ≤ fuel) :
    met fs fuel (expand fs (segments.map tokensOf) (ofNames true names)) (ofNames true (names ++ more)) =
      ways segments more := by
  induction segments generalizing names more with
  | nil => rfl
  | cons segment segments ih =>
    obtain ⟨first, others⟩ := List.forall_mem_cons.1 good
    obtain ⟨properNames, -⟩ := List.forall_mem_append.1 proper
    cases more with
    | nil =>
      -- What is put aside lies strictly below the directory.
      rw [ways_nil]
      refine met_eq_zero proper fun v member => ?_
      obtain ⟨piece, isPiece, stays⟩ := stays_of_mem_expand properNames good member
      exact ⟨names ++ [piece], isPiece_concat properNames isPiece, stays, by simp⟩
    | cons name more =>
      cases literal : literal? (tokensOf segment) with
      | none => exact met_expand_wild layered counts proper file good literal enough
      | some text =>
        obtain ⟨rfl, single, matched⟩ := first.of_literal? literal
        rw [List.map_cons, expand_tokensOf_literal properNames first literal, ways_cons single]
        by_cases same : name = text
        · subst same
          have found := layered.hasPath_of_append proper (Bool.or_eq_true_iff.2 (.inl file))
          rw [if_pos ((matched name).2 rfl), if_pos found, follow, List.isEmpty_map]
          cases segments with
          | nil =>
            obtain ⟨fuel, rfl⟩ : ∃ n, fuel = n + 1 := ⟨fuel - 1, by simp at enough; omega⟩
            exact count_path proper
          | cons next segments =>
            have whole : names ++ name :: more = names ++ [name] ++ more := List.append_cons names name more
            rw [whole] at proper file ⊢
            exact ih proper file others (Nat.le_of_succ_le enough)
        · rw [if_neg (mt (matched name).1 same)]
          have pieces := isPiece_concat properNames first.name.isPiece
          refine met_eq_zero proper fun v member => ⟨names ++ [text], pieces, ?_, by simp [same]⟩
          split at member
          · exact stays_of_mem_follow (under_self _) pieces others v member
          · exact nomatch member

/-- Comparing the name leads to the file as often as the segments take it and the names behind it. -/
theorem count_compareName (layered : fs.IsLayered) {fuel : Nat} (counts : CountsVisits fs fuel)
    (proper : ∀ n ∈ names ++ name :: more, IsName n)
    (file : fs.isFile (ofNames true (names ++ name :: more)) = true)
    (good : ∀ s ∈ segment :: segments, IsSegment s) (single : segment ≠ anyNames)
    (enough : more.length ≤ fuel) :
    let compared := compareName fs (ofNames true (names ++ [name])) ((segment :: segments).map tokensOf)
    compared.1.toList.count (ofNames true (names ++ name :: more)) +
        met fs fuel compared.2 (ofNames true (names ++ name :: more)) =
      ways (segment :: segments) (name :: more) := by
  obtain ⟨first, others⟩ := List.forall_mem_cons.1 good
  obtain ⟨properNames, properMore⟩ := List.forall_mem_append.1 proper
  have named := properMore name List.mem_cons_self
  have properFirst : ∀ n ∈ names ++ [name], IsName n :=
    List.forall_mem_append.2 ⟨properNames, List.forall_mem_singleton.2 named⟩
  have last : (ofNames true (names ++ [name])).fileName? = some name := by
    rw [← child_ofNames properNames named, fileName?_child _ named]
  have whole : names ++ name :: more = names ++ [name] ++ more := List.append_cons names name more
  dsimp only
  rw [List.map_cons, compareName, last, ways_cons single]
  simp only [first.covers_tokensOf, List.isEmpty_map]
  split
  case isFalse => rfl
  case isTrue =>
    cases segments with
    | nil => exact count_path proper
    | cons next segments =>
      rw [whole] at proper file ⊢
      exact (Nat.zero_add _).trans (met_expand layered counts proper file others enough)

/-- What two stars lead to in the directory of the name. -/
theorem met_starsBelow (layered : fs.IsLayered) {fuel : Nat} (counts : CountsVisits fs fuel)
    (proper : ∀ n ∈ names ++ more, IsName n) (file : fs.isFile (ofNames true (names ++ more)) = true)
    (good : ∀ s ∈ segments, IsSegment s) (enough : more.length ≤ fuel) :
    met fs fuel (starsBelow fs (ofNames true names) segments) (ofNames true (names ++ more)) =
      ways (anyNames :: segments) more := by
  unfold starsBelow
  split
  case isTrue =>
    exact met_expand layered counts proper file (List.forall_mem_cons.2 ⟨by decide, good⟩) enough
  case isFalse other =>
    cases more with
    | nil => rw [met_nil, ways_nil]
    | cons next more =>
      have there : fs.hasPath (ofNames true (names ++ next :: more)) = true := Bool.or_eq_true_iff.2 (.inl file)
      exact absurd (layered.isDirectory_of_append proper (List.cons_ne_nil next more) there) other

/-- Two stars and the segments behind them: the file is met in the path itself, in what follows the segment
that takes its name, and in what is below. -/
theorem count_visit_stars (layered : fs.IsLayered) {fuel : Nat} (counts : CountsVisits fs fuel)
    (proper : ∀ n ∈ names ++ name :: more, IsName n)
    (file : fs.isFile (ofNames true (names ++ name :: more)) = true)
    (good : ∀ s ∈ segments, IsSegment s) (enough : more.length ≤ fuel) :
    (visit fs (fuel + 1)
        (.pending (ofNames true (names ++ [name])) ((anyNames :: segments).map tokensOf))).count
          (ofNames true (names ++ name :: more)) =
      ways (anyNames :: segments) (name :: more) := by
  have whole : names ++ name :: more = names ++ [name] ++ more := List.append_cons names name more
  have goodRest : ∀ s ∈ segments.dropWhile (· == anyNames), IsSegment s := fun s inside =>
    good s ((List.dropWhile_suffix _).subset inside)
  have head := List.head?_dropWhile_not (· == anyNames) segments
  have below : met fs fuel (starsBelow fs (ofNames true (names ++ [name])) (segments.dropWhile (· == anyNames)))
      (ofNames true (names ++ name :: more)) = ways (anyNames :: segments.dropWhile (· == anyNames)) more := by
    rw [whole] at proper file ⊢
    exact met_starsBelow layered counts proper file goodRest enough
  rw [visit_stars good, ways_anyNames_dropWhile]
  generalize segments.dropWhile (· == anyNames) = rest at goodRest head below ⊢
  cases rest with
  | nil =>
    -- At the end two stars lead to directories, and the file is none.
    have here : (if fs.isDirectory (ofNames true (names ++ [name])) then
        [ofNames true (names ++ [name])] else []).count (ofNames true (names ++ name :: more)) = 0 := by
      split
      case isFalse => rfl
      case isTrue directory =>
        rw [count_path proper]
        cases more with
        | nil => exact absurd (layered.isDirectory_of_isFile file) (by rw [directory]; exact nofun)
        | cons next more => rfl
    refine List.count_append.trans ?_
    rw [ways_anyNames_cons (by simp), ways, here]
    exact congrArg (0 + ·) below
  | cons next rest =>
    have single : next ≠ anyNames := by simpa using head
    have compared := count_compareName layered counts proper file goodRest single enough
    dsimp only at compared
    refine List.count_append.trans ?_
    rw [ways_anyNames_cons (by simpa using single), ← below, ← compared, Nat.add_assoc]
    refine congrArg (Nat.add _) ?_
    rw [Nat.add_comm]
    exact met_append fuel _ _ _

theorem countsVisits (layered : fs.IsLayered) (fuel : Nat) : CountsVisits fs fuel := by
  induction fuel with
  | zero => exact fun _ _ _ _ _ _ _ enough => nomatch enough
  | succ fuel ih =>
    intro names name more segments proper file good enough
    have enoughToo : more.length ≤ fuel := Nat.le_of_lt_succ enough
    cases segments with
    | nil => rfl
    | cons segment segments =>
      obtain ⟨first, others⟩ := List.forall_mem_cons.1 good
      by_cases stars : segment = anyNames
      · subst stars
        exact count_visit_stars layered ih proper file others enoughToo
      · rw [List.map_cons, visit_name (Bool.eq_false_iff.2 (mt first.isDirectories_tokensOf.1 stars)),
          List.count_append]
        exact count_compareName layered ih proper file good stars enoughToo

/-! ## The files of a pattern -/

theorem splitPattern_ofNames (proper : ∀ n ∈ names, IsName n) :
    splitPattern (ofNames true names).text = (true, names) := by
  show (true, if (Text.joinWith '/' names).isEmpty then [] else Text.splitAt '/' (Text.joinWith '/' names)) = _
  cases names with
  | nil => rfl
  | cons name names =>
    have filled : (Text.joinWith '/' (name :: names)).isEmpty = false := by
      obtain ⟨c, t, rfl, -⟩ := (proper name List.mem_cons_self).relative
      cases names <;> rfl
    rw [if_neg (by rw [filled]; exact Bool.false_ne_true),
      Text.splitAt_joinWith (List.cons_ne_nil name names) fun n member => (proper n member).unmarked]

theorem mapM_parse? (good : ∀ s ∈ segments, IsSegment s) :
    segments.mapM parse? = some (segments.map tokensOf) := by
  induction segments with
  | nil => rfl
  | cons segment segments ih =>
    obtain ⟨first, others⟩ := List.forall_mem_cons.1 good
    rw [List.mapM_cons, first.parse?, ih others]
    rfl

theorem isSome_parse?_ofNames (good : ∀ s ∈ segments, IsSegment s) :
    (parse? (ofNames true segments).text).isSome = true := by
  have opens : opensComponent (some '/') = true := rfl
  obtain ⟨tokens, reads⟩ := exists_reads_joinWith (fun s member => (good s member).name.unmarked)
    (fun s member => (good s member).parses) opens [.char '/']
  exact Option.isSome_iff_exists.2 ⟨tokens, parse?_eq_some_iff.2 (.plain (by decide) reads)⟩

/-- Enough to go down to every file. -/
def fuelFor (fs : FileSystem) (segments : List Text) : Nat := (segments.length + 1) * (fs.depth + 2)

theorem paths?_ofNames (fs : FileSystem) (good : ∀ s ∈ segments, IsSegment s) :
    paths? fs (ofNames true segments) =
      some ((expand fs (segments.map tokensOf) (ofNames true [])).reverse.flatMap
        (visit fs (fuelFor fs segments))) := by
  obtain ⟨tokens, parsed⟩ := Option.isSome_iff_exists.1 (isSome_parse?_ofNames good)
  unfold paths?
  rw [parsed, splitPattern_ofNames fun s member => (good s member).name]
  simp only [mapM_parse? good, Option.bind_eq_bind, Option.bind_some, Option.pure_def, List.length_map, if_true]
  rfl

/-- A pattern that lists files has segments. -/
theorem isSegment_of_files? {found : List Path} (proper : ∀ s ∈ segments, IsName s)
    (listed : files? fs (ofNames true segments) = some found) : ∀ s ∈ segments, IsSegment s := by
  obtain ⟨components, -, parsed, -⟩ := exists_of_files? listed
  rw [splitPattern_ofNames proper] at parsed
  intro s member
  have known : parse? s ∈ components.map some := parsed ▸ List.mem_map_of_mem member
  obtain ⟨component, -, same⟩ := List.mem_map.1 known
  exact ⟨proper s member, same ▸ rfl⟩

/-- The path is written in its normal form, from the root. -/
def IsNamed (path : Path) : Prop := ∃ names, (∀ n ∈ names, IsName n) ∧ path = ofNames true names

/-- The components are those of segments of which only the last one matches dots. -/
def LeadDown (components : List (List GlobToken)) : Prop :=
  ∃ segments : List Text, (∀ s ∈ segments, IsSegment s) ∧ (∀ s ∈ segments.dropLast, AvoidsDots s) ∧
    components = segments.map tokensOf

/-- Such components lead from normal forms to normal forms, and by their last dots to directories. -/
theorem keeps_isNamed (layered : fs.IsLayered) :
    Keeps fs IsNamed (fun path => fs.isFile path = true → IsNamed path) LeadDown := by
  have step {directory : Path} {name : Text} (here : IsNamed directory) (named : IsName name) :
      IsNamed (nameIn directory name) := by
    obtain ⟨names, proper, rfl⟩ := here
    exact ⟨names ++ [name], List.forall_mem_append.2 ⟨proper, List.forall_mem_singleton.2 named⟩,
      nameIn_ofNames (isPiece_of_isName proper) named.isPiece⟩
  constructor
  case behind =>
    rintro component components ⟨segments, good, avoid, same⟩
    obtain ⟨segment, rest, rfl, -, rfl⟩ := List.map_eq_cons_iff.1 same.symm
    refine ⟨rest, (List.forall_mem_cons.1 good).2, fun s member => avoid s ?_, rfl⟩
    cases rest with
    | nil => exact nomatch member
    | cons next rest => exact List.mem_cons_of_mem segment member
  case literal =>
    rintro directory component components name ⟨segments, good, -, same⟩ here spelled
    obtain ⟨segment, rest, rfl, rfl, -⟩ := List.map_eq_cons_iff.1 same.symm
    obtain ⟨rfl, -⟩ := (good segment List.mem_cons_self).of_literal? spelled
    exact step here (good name List.mem_cons_self).name
  case listed => exact fun here member => step here (isName_of_mem_namesIn member)
  case dots =>
    rintro directory component next components name ⟨segments, good, avoid, same⟩ - member
    obtain ⟨segment, rest, rfl, rfl, more⟩ := List.map_eq_cons_iff.1 same.symm
    obtain ⟨second, rest, rfl, -, -⟩ := List.map_eq_cons_iff.1 more
    rw [(good segment List.mem_cons_self).dotNames_tokensOf (avoid segment List.mem_cons_self)] at member
    exact nomatch member
  case lastDots =>
    intro directory component name _ folder member file
    rw [layered.isFile_dots (isDots_of_mem_dotNames member) folder] at file
    exact nomatch file
  case reached => exact fun here _ => here

/-- An absolute pattern lists the files that fit it, in the order of paths, each as often as it fits. -/
theorem files?_ofNames (layered : fs.IsLayered) (good : ∀ s ∈ segments, IsSegment s) :
    ∃ found, files? fs (ofNames true segments) = some found ∧ found.Pairwise (le · ·) ∧
      (∀ f ∈ found, fs.isFile f = true ∧ f.isAbsolute = true) ∧
      ((∀ s ∈ segments.dropLast, AvoidsDots s) → ∀ f ∈ found, IsNamed f) ∧
      ∀ names, (∀ n ∈ names, IsName n) → fs.isFile (ofNames true names) = true →
        found.count (ofNames true names) = ways segments names := by
  have root : ∀ n ∈ ([] : List Text), IsName n := nofun
  obtain ⟨found, listed, whole⟩ : ∃ found, files? fs (ofNames true segments) = some found ∧
      found = _ := ⟨_, congrArg (Option.map _) (paths?_ofNames fs good), rfl⟩
  have isFile : ∀ f ∈ found, fs.isFile f = true := fun f member => by
    rw [whole, List.mem_mergeSort, List.mem_filter] at member
    exact member.2
  have rooted : (splitPattern (ofNames true segments).text).1 = true := rfl
  have parsed {components : List (List GlobToken)}
      (parsed : (splitPattern (ofNames true segments).text).2.map parse? = components.map some) :
      components = segments.map tokensOf := by
    rw [splitPattern_ofNames fun s member => (good s member).name, map_parse?_of_mapM (mapM_parse? good)]
      at parsed
    exact (List.map_inj_right fun _ _ => Option.some.inj).1 parsed.symm
  refine ⟨found, listed, whole ▸ pairwise_mergeSort _, fun f member => ⟨isFile f member, ?_⟩,
    fun avoid f member => ?_, fun names proper file => ?_⟩
  · obtain ⟨below, -, rfl⟩ := (keeps_under fs (isPiece_of_isName root)).mem_files? (under_self []) rooted
      (fun components found => ⟨segments, good, parsed found⟩) listed f member
    rfl
  · exact (keeps_isNamed layered).mem_files? ⟨[], root, rfl⟩ rooted
      (fun components found => ⟨segments, good, avoid, parsed found⟩) listed f member (isFile f member)
  · have enough : names.length ≤ fuelFor fs segments := by
      have deep := FileSystem.length_lt_depth proper file
      have large : fs.depth + 2 ≤ fuelFor fs segments := Nat.le_mul_of_pos_left _ (Nat.succ_pos _)
      omega
    rw [whole, (List.mergeSort_perm _ _).count_eq, List.count_filter file]
    have counted := met_expand layered (countsVisits layered (fuelFor fs segments)) (List.forall_mem_append.2
      ⟨root, proper⟩) file good enough
    exact counted

end ModuleHooks.Glob
