import ModuleHooks.Proofs.FileSystem.Regular
import ModuleHooks.Workspace.Table

/-!
What a pattern of a workspace offers: the packages directly in a category, or the one package that it names.
A package that is offered lies where its category and its slug say (`Offers.hasManifest`), in whatever spelling
the pattern names it, and a pattern offers every package that it means (`offers_of_category`,
`offers_of_named`).
-/
namespace ModuleHooks.WorkspaceTable

open ModuleHooks.Path

/-! ## The plain form -/

section

variable {mark : Char} {s v : Text}

theorem dropHere_here (n : Nat) {fuel : Nat} (enough : n ≤ fuel) (stops : ¬['.', '/'] <+: v) :
    dropHere fuel (here n ++ v) = v := by
  induction n generalizing fuel with
  | zero =>
    show dropHere fuel v = v
    unfold dropHere
    split
    case h_1 rest => exact absurd ⟨rest, rfl⟩ stops
    case h_2 => rfl
  | succ n ih =>
    cases fuel with
    | zero => omega
    | succ fuel => exact ih (by omega)

/-- What is dropped are dots for the starting directory. -/
theorem exists_dropHere {fuel : Nat} (enough : s.length ≤ fuel) :
    ∃ n, s = here n ++ dropHere fuel s ∧ ¬['.', '/'] <+: dropHere fuel s := by
  induction fuel generalizing s with
  | zero =>
    obtain rfl := List.length_eq_zero_iff.1 (Nat.le_zero.1 enough)
    exact ⟨0, rfl, by decide⟩
  | succ fuel ih =>
    by_cases starts : ['.', '/'] <+: s
    · obtain ⟨rest, rfl⟩ := starts
      obtain ⟨n, whole, stops⟩ := ih (s := rest) (by simp at enough; omega)
      exact ⟨n + 1, congrArg ('.' :: '/' :: ·) whole, stops⟩
    · have same : dropHere (fuel + 1) s = s := dropHere_here 0 (Nat.zero_le _) starts
      rw [same]
      exact ⟨0, rfl, starts⟩

/-- A pattern is its plain form between dots for the starting directory and slashes. -/
theorem exists_plain (pattern : Text) :
    ∃ n m, pattern = here n ++ (plainPattern pattern ++ List.replicate m '/') ∧
      ¬['.', '/'] <+: plainPattern pattern ∧ (plainPattern pattern).getLast? ≠ some '/' := by
  obtain ⟨n, whole, stops⟩ := exists_dropHere (Nat.le_refl pattern.length)
  obtain ⟨m, inner, ends⟩ := Text.exists_trimEndOf '/' (dropHere pattern.length pattern)
  refine ⟨n, m, ?_, ?_, ends⟩
  · rw [plainPattern, ← inner, ← whole]
  · rintro ⟨rest, starts⟩
    refine stops ⟨rest ++ List.replicate m '/', ?_⟩
    rw [inner, ← plainPattern, ← starts, List.append_assoc]

/-! ## Stars -/

/-- The ends by which a pattern means a category. -/
def starredEnds : List Text := ["/*".toList, "/**".toList]

variable {category pattern c stars : Text}

theorem categoryOf?_append (category : Text) (known : stars ∈ starredEnds) :
    categoryOf? (category ++ stars) = some category := by
  obtain rfl | rfl : stars = "/*".toList ∨ stars = "/**".toList := by simpa [starredEnds] using known
  · have single : Text.before? "/**".toList (category ++ "/*".toList) = none := by
      simp [Text.before?, Text.after?, List.isPrefixOf?]
    rw [categoryOf?, single, Option.none_or, Text.before?_append]
  · rw [categoryOf?, Text.before?_append, Option.some_or]

theorem starred_of_categoryOf? (means : categoryOf? v = some category) :
    ∃ stars ∈ starredEnds, v = category ++ stars := by
  obtain double | ⟨-, single⟩ := Option.or_eq_some_iff.1 means
  · exact ⟨_, by simp [starredEnds], Text.append_of_before? double⟩
  · exact ⟨_, by simp [starredEnds], Text.append_of_before? single⟩

/-- A pattern without a star means no category. -/
theorem categoryOf?_eq_none (plain : '*' ∉ v) : categoryOf? v = none := by
  refine Option.eq_none_iff_forall_not_mem.2 fun category means => plain ?_
  obtain ⟨stars, known, rfl⟩ := starred_of_categoryOf? means
  obtain rfl | rfl : stars = "/*".toList ∨ stars = "/**".toList := by simpa [starredEnds] using known
  · simp
  · simp

/-- The category that a pattern is written with, without dots for the starting directory in front. -/
def plainCategory (category : Text) : Text := dropHere category.length category

theorem star_notMem_here (n : Nat) : '*' ∉ here n := by
  simp [here]

theorem starredEnds_cases (known : stars ∈ starredEnds) : ∃ tail, stars = '/' :: '*' :: tail := by
  obtain rfl | rfl : stars = "/*".toList ∨ stars = "/**".toList := by simpa [starredEnds] using known
  · exact ⟨_, rfl⟩
  · exact ⟨_, rfl⟩

/-- A pattern that is written with a star at its end is its plain form behind dots for the starting directory,
but for the slashes at its end. -/
theorem exists_here_of_starred (known : stars ∈ starredEnds)
    (written : Text.trimEndOf '/' pattern = category ++ stars) :
    ∃ n, here n ++ plainPattern pattern = category ++ stars ∧ ¬['.', '/'] <+: plainPattern pattern := by
  obtain ⟨n, m, whole, stops, ends⟩ := exists_plain pattern
  obtain ⟨k, marked, -⟩ := Text.exists_trimEndOf '/' pattern
  generalize plainPattern pattern = v at *
  have some : v ≠ [] := by
    rintro rfl
    have star : '*' ∈ pattern := by
      obtain ⟨tail, rfl⟩ := starredEnds_cases known
      rw [marked, written]
      simp
    rw [whole, List.nil_append, List.mem_append] at star
    rcases star with front | slash
    · exact star_notMem_here n front
    · exact absurd (List.eq_of_mem_replicate slash) (by decide)
  have last : (here n ++ v).getLast? ≠ Option.some '/' := by
    rwa [List.getLast?_append_of_ne_nil _ some]
  refine ⟨n, ?_, stops⟩
  rw [← written, whole, ← List.append_assoc, Text.trimEndOf_append m last]

theorem plainCategory_here (n : Nat) (stops : ¬['.', '/'] <+: v) : plainCategory (here n ++ v) = v := by
  refine dropHere_here n ?_ stops
  simp [here]
  omega

/-- A pattern that is written with a category and is more than its stars means this category. -/
theorem categoryOf?_plainPattern (known : stars ∈ starredEnds)
    (written : Text.trimEndOf '/' pattern = category ++ stars) (more : plainPattern pattern ≠ stars.tail) :
    categoryOf? (plainPattern pattern) = some (plainCategory category) ∧
      ∃ n, category = here n ++ plainCategory category := by
  obtain ⟨n, same, stops⟩ := exists_here_of_starred known written
  generalize plainPattern pattern = v at *
  have kept {a : Text} (cut : category = here n ++ a) (left : v = a ++ stars) :
      categoryOf? v = some (plainCategory category) ∧ ∃ n, category = here n ++ plainCategory category := by
    have stopsToo : ¬['.', '/'] <+: a := fun starts => stops (left ▸ starts.trans (List.prefix_append a _))
    rw [cut, plainCategory_here n stopsToo, left]
    exact ⟨categoryOf?_append a known, n, rfl⟩
  obtain ⟨a, cut, left⟩ | ⟨a, cut, left⟩ := List.append_eq_append_iff.1 same
  · exact kept cut left
  · obtain ⟨tail, rfl⟩ := starredEnds_cases known
    -- The dots in front hold no star, so they end with the category or with the slash behind it.
    rcases a with _ | ⟨slash, _ | ⟨star, a⟩⟩
    · exact kept (a := []) (by simpa using cut.symm) (by simpa using left.symm)
    · exact absurd (List.cons.inj left).2.symm more
    · obtain rfl : '*' = star := (List.cons.inj (List.cons.inj left).2).1
      exact absurd (by rw [cut]; simp) (star_notMem_here n)

end

/-! ## What a pattern offers -/

/-- What a pattern offers: the packages directly in the category that it means, by their names, or the package
that it names itself, by its last name in the path above. -/
inductive Offers (fs : FileSystem) (root : Path) (pattern : Text) : Text → Text → Prop
  | member {category slug : Text} (means : categoryOf? (plainPattern pattern) = some category)
      (directory : fs.isDirectory (root.child category) = true) (proper : IsName slug)
      (listed : (root.child category).child slug ∈ fs.listing (root.child category))
      (inside : fs.isDirectory ((root.child category).child slug) = true)
      (manifest : hasManifest fs ((root.child category).child slug) = true) :
      Offers fs root pattern slug category
  | named {slug : Text} {above : Path} (plain : '*' ∉ plainPattern pattern)
      (last : fileName? ⟨plainPattern pattern⟩ = some slug)
      (found : parent? ⟨plainPattern pattern⟩ = some above)
      (manifest : hasManifest fs (root.child (plainPattern pattern)) = true) :
      Offers fs root pattern slug above.text

/-- What a pattern means as it is written: a package in a category with a star or two behind it, slashes at the
end apart, or the package that it names without a star. The pattern has to be more than its stars in its plain
form, it has to start there where it is written to, and the category has to be one that can be listed. -/
inductive Means (fs : FileSystem) (root : Path) (pattern : Text) : Text → Prop
  | member {category stars slug : Text} (known : stars ∈ starredEnds)
      (written : Text.trimEndOf '/' pattern = category ++ stars) (more : plainPattern pattern ≠ stars.tail)
      (start : isAbsolute ⟨plainCategory category⟩ = isAbsolute ⟨category⟩)
      (directory : fs.isDirectory (root.child (plainCategory category)) = true)
      (listed : (fs.entries (root.child (plainCategory category))).isSome = true) (proper : IsName slug)
      (inside : fs.isDirectory ((root.child category).child slug) = true)
      (manifest : hasManifest fs ((root.child category).child slug) = true) : Means fs root pattern slug
  | named {slug : Text} (unstarred : '*' ∉ pattern)
      (start : isAbsolute ⟨plainPattern pattern⟩ = isAbsolute ⟨pattern⟩)
      (last : fileName? ⟨pattern⟩ = some slug) (manifest : hasManifest fs (root.child pattern) = true) :
      Means fs root pattern slug

section

variable {fs : FileSystem} {root : Path} {pattern slug category : Text}

/-- A pattern gives one category to all that it offers. -/
theorem Offers.category_unique {other otherCategory : Text} (first : Offers fs root pattern slug category)
    (second : Offers fs root pattern other otherCategory) : category = otherCategory := by
  cases first with
  | member means =>
    cases second with
    | member meansToo => exact Option.some.inj (means.symm.trans meansToo)
    | named plain => exact nomatch means.symm.trans (categoryOf?_eq_none plain)
  | named plain _ found =>
    cases second with
    | member means => exact nomatch means.symm.trans (categoryOf?_eq_none plain)
    | named _ _ foundToo =>
      obtain rfl := Option.some.inj (found.symm.trans foundToo)
      rfl

theorem mem_inCategory_iff (regular : fs.IsRegular) {other : Text} :
    (slug, other) ∈ inCategory fs root category ↔
      other = category ∧ fs.isDirectory (root.child category) = true ∧ IsName slug ∧
        (root.child category).child slug ∈ fs.listing (root.child category) ∧
        fs.isDirectory ((root.child category).child slug) = true ∧
        hasManifest fs ((root.child category).child slug) = true := by
  unfold inCategory
  dsimp only
  split
  case isFalse missing => exact iff_of_false List.not_mem_nil fun there => missing there.2.1
  case isTrue directory =>
    rw [List.mem_filterMap]
    constructor
    · rintro ⟨entry, holding, same⟩
      obtain ⟨listed, holds⟩ := List.mem_filter.1 holding
      obtain ⟨inside, manifest⟩ := Bool.and_eq_true_iff.1 holds
      obtain ⟨entries, whole, member⟩ :
          ∃ entries, fs.entries (root.child category) = some entries ∧ entry ∈ entries := by
        unfold FileSystem.listing at listed
        cases found : fs.entries (root.child category) with
        | none => rw [found] at listed; exact nomatch listed
        | some entries => rw [found] at listed; exact ⟨entries, rfl, listed⟩
      obtain ⟨name, proper, rfl⟩ := regular.exists_name whole member
      rw [fileName?_child _ proper] at same
      obtain ⟨rfl, rfl⟩ := Prod.mk.inj (Option.some.inj same)
      exact ⟨rfl, directory, proper, listed, inside, manifest⟩
    · rintro ⟨rfl, -, proper, listed, inside, manifest⟩
      refine ⟨_, List.mem_filter.2 ⟨listed, Bool.and_eq_true_iff.2 ⟨inside, manifest⟩⟩, ?_⟩
      rw [fileName?_child _ proper]
      rfl

theorem mem_named_iff {pattern : Text} :
    (slug, category) ∈ named fs root pattern ↔
      fileName? ⟨pattern⟩ = some slug ∧ (parent? ⟨pattern⟩).map Path.text = some category ∧
        hasManifest fs (root.child pattern) = true := by
  unfold named
  cases fileName? ⟨pattern⟩ with
  | none => simp
  | some last =>
    cases parent? ⟨pattern⟩ with
    | none => simp
    | some above =>
      dsimp only
      split
      case isTrue manifest => simp [manifest, eq_comm]
      case isFalse missing => simp [missing]

/-- The packages of a pattern are those that it offers. -/
theorem mem_expandPattern_iff (regular : fs.IsRegular) :
    (slug, category) ∈ expandPattern fs root pattern ↔ Offers fs root pattern slug category := by
  unfold expandPattern
  dsimp only
  cases means : categoryOf? (plainPattern pattern) with
  | some inner =>
    dsimp only
    rw [mem_inCategory_iff regular]
    constructor
    · rintro ⟨rfl, directory, proper, listed, inside, manifest⟩
      exact .member means directory proper listed inside manifest
    · intro offers
      cases offers with
      | member meansToo directory proper listed inside manifest =>
        obtain rfl := Option.some.inj (means.symm.trans meansToo)
        exact ⟨rfl, directory, proper, listed, inside, manifest⟩
      | named plain => exact absurd (categoryOf?_eq_none plain) (Option.ne_none_iff_exists'.2 ⟨inner, means⟩)
  | none =>
    dsimp only
    split
    case isTrue starred =>
      refine iff_of_false List.not_mem_nil fun offers => ?_
      cases offers with
      | member meansToo => exact absurd (means.symm.trans meansToo) (Option.some_ne_none _).symm
      | named plain => exact plain (List.contains_iff_mem.1 starred)
    case isFalse unstarred =>
      rw [mem_named_iff]
      constructor
      · rintro ⟨last, above, manifest⟩
        obtain ⟨path, found, rfl⟩ := Option.map_eq_some_iff.1 above
        exact .named (fun star => unstarred (List.contains_iff_mem.2 star)) last found manifest
      · intro offers
        cases offers with
        | member meansToo => exact absurd (means.symm.trans meansToo) (Option.some_ne_none _).symm
        | named plain last found manifest => exact ⟨last, by rw [found]; rfl, manifest⟩

/-! ## Where packages lie -/

theorem isName_manifest : IsName Manifest.fileName := ⟨by decide, by decide, by decide⟩

theorem child_child (root : Path) (name inner : Text) :
    (root.child name).child inner = root.join (child ⟨name⟩ inner) :=
  join_join root ⟨name⟩ ⟨inner⟩

theorem pathIn_child (root : Path) (name : Text) :
    Manifest.pathIn (root.child name) = root.join (child ⟨name⟩ Manifest.fileName) :=
  child_child root name Manifest.fileName

theorem pathIn_child_child (root : Path) (name inner : Text) :
    Manifest.pathIn ((root.child name).child inner) =
      root.join ((child ⟨name⟩ inner).child Manifest.fileName) := by
  rw [child_child]
  exact join_join root (child ⟨name⟩ inner) ⟨Manifest.fileName⟩

/-- A package that is offered has its manifest where its category and its slug say. -/
theorem Offers.hasManifest (regular : fs.IsRegular) (offers : Offers fs root pattern slug category) :
    WorkspaceTable.hasManifest fs ((root.child category).child slug) = true := by
  cases offers with
  | member _ _ _ _ _ manifest => exact manifest
  | @named _ above plain last found manifest =>
    obtain ⟨n, m, whole, stops, ends⟩ := exists_plain pattern
    generalize plainPattern pattern = v at *
    have closed : slashed v = v ++ ['/'] := by
      cases v with
      | nil => exact nomatch last
      | cons c v => simpa [slashed] using ends
    have tidies := tidiesTo_named stops closed last found isName_manifest
    unfold WorkspaceTable.hasManifest at manifest ⊢
    rw [pathIn_child] at manifest
    rw [pathIn_child_child]
    exact regular.isFile_tidiedTo (tidies.join root) manifest

/-! ## What a pattern means -/

/-- A package directly in a category that a pattern is written with is offered, if the pattern is more than its
stars, its category starts where it is written to, and it can be listed. -/
theorem offers_of_category (regular : fs.IsRegular) {stars : Text} (known : stars ∈ starredEnds)
    (written : Text.trimEndOf '/' pattern = category ++ stars) (more : plainPattern pattern ≠ stars.tail)
    (start : isAbsolute ⟨plainCategory category⟩ = isAbsolute ⟨category⟩)
    (directory : fs.isDirectory (root.child (plainCategory category)) = true)
    (listed : (fs.entries (root.child (plainCategory category))).isSome = true) (proper : IsName slug)
    (inside : fs.isDirectory ((root.child category).child slug) = true)
    (manifest : hasManifest fs ((root.child category).child slug) = true) :
    Offers fs root pattern slug (plainCategory category) := by
  obtain ⟨means, n, whole⟩ := categoryOf?_plainPattern known written more
  generalize plainCategory category = plain at *
  have starts : n = 0 ∨ isAbsolute ⟨plain⟩ = false := by
    cases n with
    | zero => exact .inl rfl
    | succ n => exact .inr (by rw [start, whole]; rfl)
  have found : fs.isDirectory ((root.child plain).child slug) = true := by
    rw [child_child, whole, child_here_append n plain proper] at inside
    rw [child_child]
    exact regular.isDirectory_tidiedTo
      (tidiesTo_join_here root n (starts.imp_right (relative_child · proper))) inside
  have holds : WorkspaceTable.hasManifest fs ((root.child plain).child slug) = true := by
    unfold WorkspaceTable.hasManifest at manifest ⊢
    rw [pathIn_child_child, whole, child_here_append n plain proper,
      child_here_append n _ isName_manifest] at manifest
    rw [pathIn_child_child]
    refine regular.isFile_tidiedTo (tidiesTo_join_here root n (starts.imp_right fun relative => ?_)) manifest
    obtain ⟨c, t, text, other⟩ := relative_child relative proper
    refine relative_child ?_ isName_manifest
    show ((child ⟨plain⟩ slug).text.head? == some '/') = false
    rw [text]
    simpa using other
  obtain ⟨entries, entriesOf⟩ := Option.isSome_iff_exists.1 listed
  have member := regular.mem_entries entriesOf proper found
  refine .member means directory proper ?_ found holds
  rw [FileSystem.listing, entriesOf]
  exact member

/-- A package that a pattern without a star names is offered, if the pattern starts where it is written to. -/
theorem offers_of_named (regular : fs.IsRegular) (unstarred : '*' ∉ pattern)
    (start : isAbsolute ⟨plainPattern pattern⟩ = isAbsolute ⟨pattern⟩)
    (last : fileName? ⟨pattern⟩ = some slug) (manifest : hasManifest fs (root.child pattern) = true) :
    ∃ category, Offers fs root pattern slug category := by
  obtain ⟨n, m, whole, -, ends⟩ := exists_plain pattern
  have plain : '*' ∉ plainPattern pattern := fun star => unstarred (by rw [whole]; simp [star])
  have lastToo : fileName? ⟨plainPattern pattern⟩ = some slug := by
    rw [← last]
    refine fileName?_congr ?_
    show componentsOf (Text.splitAt '/' (plainPattern pattern)) = componentsOf (Text.splitAt '/' pattern)
    nth_rewrite 2 [whole]
    rw [componentsOf_here, componentsOf_slashes]
  obtain ⟨above, found⟩ := exists_parent? lastToo
  refine ⟨above.text, .named plain lastToo found ?_⟩
  generalize plainPattern pattern = v at *
  have some : v ≠ [] := by
    rintro rfl
    exact nomatch lastToo
  have starts : n = 0 ∨ isAbsolute ⟨v ++ List.replicate m '/'⟩ = false := by
    cases n with
    | zero => exact .inl rfl
    | succ n =>
      refine .inr ?_
      obtain ⟨c, v, rfl⟩ := List.exists_cons_of_ne_nil some
      exact start.trans (by rw [whole]; rfl)
  unfold WorkspaceTable.hasManifest at manifest ⊢
  rw [pathIn_child, whole, child_here_append n _ isName_manifest] at manifest
  rw [pathIn_child]
  refine regular.isFile_tidiedTo ?_ manifest
  exact (tidiesTo_join_here root n (starts.imp_right (relative_child · isName_manifest))).trans
    ((tidiesTo_slashes m some ends isName_manifest).join root)

/-- A pattern offers what it means. -/
theorem Means.exists_offers (regular : fs.IsRegular) (means : Means fs root pattern slug) :
    ∃ category, Offers fs root pattern slug category := by
  cases means with
  | member known written more start directory listed proper inside manifest =>
    exact ⟨_, offers_of_category regular known written more start directory listed proper inside manifest⟩
  | named unstarred start last manifest => exact offers_of_named regular unstarred start last manifest

end

end ModuleHooks.WorkspaceTable
