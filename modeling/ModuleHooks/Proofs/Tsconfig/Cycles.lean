import Mathlib.Logic.Relation
import ModuleHooks.FileSystem.Tree
import ModuleHooks.Proofs.Tsconfig.Loading

/-!
Configurations that extend each other. Loading follows every chain of bases and fails with a cycle when
one comes back to a normal path that it has passed; where nothing else is wrong, that is the only way to
fail (`load_cycles`). What was loaded before on another chain is of no account, so several configurations
may extend the same one. The chains are of paths as they were found: a normal path may be reached in two
spellings that find different bases.
-/
namespace ModuleHooks.Tsconfig

open Relation

/-- The configuration at `p` extends the one that is found at `q`. -/
def TakesFrom (fs : FileSystem) (p q : Path) : Prop :=
  ∃ config base, own fs p = .ok config ∧ base ∈ config.bases ∧ findBase? fs p base = some q

/-- Every configuration that is reached through bases can be read and parsed, and its bases are found. -/
def IsComplete (fs : FileSystem) (path : Path) : Prop :=
  ∀ p, ReflTransGen (TakesFrom fs) path p →
    ∃ config, own fs p = .ok config ∧ ∀ base ∈ config.bases, (findBase? fs p base).isSome = true

/-- Some chain of bases comes back to a normal path. -/
def Returns (fs : FileSystem) (path : Path) : Prop :=
  ∃ p q, ReflTransGen (TakesFrom fs) path p ∧ TransGen (TakesFrom fs) p q ∧ q.normalize = p.normalize

/-- A step in the graph of normal paths: some configuration that is reached under the first extends one
under the second. -/
def NormalStep (fs : FileSystem) (path m n : Path) : Prop :=
  ∃ p q, ReflTransGen (TakesFrom fs) path p ∧ TakesFrom fs p q ∧ p.normalize = m ∧ q.normalize = n

/-- What is reached extends the same normal paths however it is spelled. -/
def IsSpellingBlind (fs : FileSystem) (path : Path) : Prop :=
  ∀ p p' q, ReflTransGen (TakesFrom fs) path p → ReflTransGen (TakesFrom fs) path p' →
    p.normalize = p'.normalize → TakesFrom fs p q → ∃ q', TakesFrom fs p' q' ∧ q'.normalize = q.normalize

section

variable {fs : FileSystem} {begun : List Path} {path : Path}

/-! ## Where bases fail and where they do not -/

theorem joinBases_error {load : Path → Option (Except HookError Tsconfig)} {bases : List Text}
    {merged : Option Tsconfig} {e : HookError}
    (failed : joinBases fs begun path load bases merged = some (.error e)) :
    ∃ base ∈ bases, findBase? fs path base = none ∨ ∃ found, findBase? fs path base = some found ∧
      (found.normalize ∈ begun ∧ e = .config found .cycle ∨ load found = some (.error e)) := by
  induction bases generalizing merged with
  | nil => exact nomatch failed
  | cons base bases ih =>
    unfold joinBases at failed
    cases located : findBase? fs path base with
    | none => exact ⟨base, List.mem_cons_self, .inl located⟩
    | some found =>
      simp only [located] at failed
      split at failed
      case isTrue again =>
        cases failed
        exact ⟨base, List.mem_cons_self, .inr ⟨found, located, .inl ⟨again, rfl⟩⟩⟩
      case isFalse =>
        split at failed
        case h_1 config loaded =>
          obtain ⟨other, member, cause⟩ := ih failed
          exact ⟨other, List.mem_cons_of_mem base member, cause⟩
        case h_2 e' loaded =>
          cases failed
          exact ⟨base, List.mem_cons_self, .inr ⟨found, located, .inr loaded⟩⟩
        case h_3 => exact nomatch failed

theorem joinBases_ok {load : Path → Option (Except HookError Tsconfig)} {bases : List Text}
    {merged result : Option Tsconfig}
    (joined : joinBases fs begun path load bases merged = some (.ok result)) :
    ∀ base ∈ bases, ∃ found config, findBase? fs path base = some found ∧
      found.normalize ∉ begun ∧ load found = some (.ok config) := by
  induction bases generalizing merged with
  | nil => simp
  | cons base bases ih =>
    unfold joinBases at joined
    cases located : findBase? fs path base with
    | none => simp [located] at joined
    | some found =>
      simp only [located] at joined
      split at joined
      case isTrue => cases joined
      case isFalse new =>
        split at joined
        case h_2 => cases joined
        case h_3 => exact nomatch joined
        case h_1 config loaded =>
          exact List.forall_mem_cons.2 ⟨⟨found, config, located, new, loaded⟩, ih joined⟩

/-! ## A failure is a return -/

theorem IsComplete.step {q : Path} (complete : IsComplete fs path) (takes : TakesFrom fs path q) :
    IsComplete fs q :=
  fun p reached => complete p (.head takes reached)

/-- Where nothing else is wrong, loading fails at a path that a chain leads to, whose normal form had
been begun or is that of a path that the chain has passed. -/
theorem cycle_of_loadWithin {n : Nat} {e : HookError}
    (failed : loadWithin fs n begun path = some (.error e)) (complete : IsComplete fs path) :
    ∃ q, e = .config q .cycle ∧ TransGen (TakesFrom fs) path q ∧
      (q.normalize ∈ begun ∨
        ∃ p, TransGen (TakesFrom fs) path p ∧ TransGen (TakesFrom fs) p q ∧ q.normalize = p.normalize) := by
  induction n generalizing begun path with
  | zero => exact nomatch failed
  | succ n ih =>
    obtain ⟨config, declared, located⟩ := complete path .refl
    simp only [loadWithin, declared] at failed
    obtain ⟨r, joined, whole⟩ := Option.map_eq_some_iff.1 failed
    cases r with
    | ok merged => cases whole
    | error e' =>
      obtain rfl : e' = e := Except.error.inj whole
      obtain ⟨base, member, cause⟩ := joinBases_error joined
      obtain absent | ⟨found, present, cause⟩ := cause
      · exact absurd (located base member) (by simp [absent])
      have takes : TakesFrom fs path found := ⟨config, base, declared, member, present⟩
      obtain ⟨again, rfl⟩ | failedThere := cause
      · exact ⟨found, rfl, .single takes, .inl again⟩
      obtain ⟨q, rfl, chain, back⟩ := ih failedThere (complete.step takes)
      refine ⟨q, rfl, .head takes chain, ?_⟩
      obtain member | ⟨p, before, behind, same⟩ := back
      · obtain same | earlier := List.mem_cons.1 member
        · exact .inr ⟨found, .single takes, chain, same⟩
        · exact .inl earlier
      · exact .inr ⟨p, .head takes before, behind, same⟩

/-! ## A return is a failure -/

/-- What is loaded has no chain that comes to a normal path that had been begun, or twice to one. -/
theorem fresh_of_loadWithin {n : Nat} {c : Tsconfig}
    (loaded : loadWithin fs n begun path = some (.ok c)) :
    ∀ p, TransGen (TakesFrom fs) path p → p.normalize ∉ begun ∧
      ∀ q, TransGen (TakesFrom fs) p q → q.normalize ≠ p.normalize := by
  induction n generalizing begun path c with
  | zero => exact nomatch loaded
  | succ n ih =>
    unfold loadWithin at loaded
    split at loaded
    case h_1 => cases loaded
    case h_2 config declared =>
      obtain ⟨r, joined, whole⟩ := Option.map_eq_some_iff.1 loaded
      cases r with
      | error e => cases whole
      | ok merged =>
        intro p chain
        obtain ⟨found, takes, chain⟩ := TransGen.head'_iff.1 chain
        obtain ⟨configToo, base, declaredToo, member, located⟩ := takes
        obtain rfl := Except.ok.inj (declaredToo.symm.trans declared)
        obtain ⟨foundToo, c, locatedToo, new, loadedThere⟩ := joinBases_ok joined base member
        obtain rfl := Option.some.inj (locatedToo.symm.trans located)
        have below := ih loadedThere
        obtain rfl | chain := reflTransGen_iff_eq_or_transGen.1 chain
        · refine ⟨new, fun q behind same => ?_⟩
          exact (below q behind).1 (List.mem_cons.2 (.inl same))
        · obtain ⟨fresh, apart⟩ := below p chain
          exact ⟨fun earlier => fresh (List.mem_cons_of_mem _ earlier), apart⟩

theorem not_returns_of_loadWithin {n : Nat} {c : Tsconfig}
    (loaded : loadWithin fs n [path.normalize] path = some (.ok c)) : ¬ Returns fs path := by
  rintro ⟨p, q, reached, chain, same⟩
  have fresh := fresh_of_loadWithin loaded
  obtain rfl | before := reflTransGen_iff_eq_or_transGen.1 reached
  · exact (fresh q chain).1 (by simp [same])
  · exact (fresh p before).2 q chain same

/-! ## Chains and the graph of normal paths -/

theorem normalStep_of_chain {p q : Path} (reached : ReflTransGen (TakesFrom fs) path p)
    (chain : TransGen (TakesFrom fs) p q) :
    TransGen (NormalStep fs path) p.normalize q.normalize := by
  induction chain with
  | single takes => exact .single ⟨p, _, reached, takes, rfl, rfl⟩
  | tail before takes ih =>
    exact .tail ih ⟨_, _, reached.trans before.to_reflTransGen, takes, rfl, rfl⟩

theorem chain_of_normalStep (blind : IsSpellingBlind fs path) {p : Path} {n : Path}
    (reached : ReflTransGen (TakesFrom fs) path p) (steps : TransGen (NormalStep fs path) p.normalize n) :
    ∃ q, TransGen (TakesFrom fs) p q ∧ q.normalize = n := by
  have follow {p n : Path} (reached : ReflTransGen (TakesFrom fs) path p)
      (step : NormalStep fs path p.normalize n) : ∃ q, TakesFrom fs p q ∧ q.normalize = n := by
    obtain ⟨p', q', reached', takes, same, rfl⟩ := step
    exact blind p' p q' reached' reached same takes
  induction steps with
  | single step =>
    obtain ⟨q, takes, same⟩ := follow reached step
    exact ⟨q, .single takes, same⟩
  | tail _ step ih =>
    obtain ⟨q, chain, rfl⟩ := ih
    obtain ⟨q', takes, same⟩ := follow (reached.trans chain.to_reflTransGen) step
    exact ⟨q', .tail chain takes, same⟩

/-- A chain that comes back is a cycle of normal paths. A cycle of normal paths is a chain that comes
back where spelling does not matter. -/
theorem Returns.cycle (returns : Returns fs path) : ∃ m, TransGen (NormalStep fs path) m m := by
  obtain ⟨p, q, reached, chain, same⟩ := returns
  exact ⟨p.normalize, by simpa only [same] using normalStep_of_chain reached chain⟩

theorem returns_of_cycle (blind : IsSpellingBlind fs path) {m : Path}
    (cycle : TransGen (NormalStep fs path) m m) : Returns fs path := by
  obtain ⟨n, first, -⟩ := TransGen.head'_iff.1 cycle
  obtain ⟨p, -, reached, -, rfl, -⟩ := first
  obtain ⟨q, chain, same⟩ := chain_of_normalStep blind reached cycle
  exact ⟨p, q, reached, chain, same⟩

end

/-- Loading ends, with no more configurations open at once than there are files, and the first. Where
every configuration that is reached can be read and parsed and its bases are found, it fails with a cycle
if and only if a chain of bases comes back to a normal path, and succeeds otherwise. A cycle that it fails
with is one in the graph of normal paths; where spelling does not matter, it fails if that graph has
one. -/
theorem load_cycles (fs : FileSystem) (path : Path) {σ : Type} (s : σ) :
    (∃ r, loadWithin fs (fs.files.length + 1) [path.normalize] path = some r ∧
      ((load fs path).outcome s).1 = r.map (⟨path, ·⟩)) ∧
    (IsComplete fs path →
      ((∃ q, ((load fs path).outcome s).1 = .error (.config q .cycle)) ↔ Returns fs path) ∧
      (¬ Returns fs path → ∃ loaded, ((load fs path).outcome s).1 = .ok loaded) ∧
      (Returns fs path → ∃ m, TransGen (NormalStep fs path) m m) ∧
      (IsSpellingBlind fs path → (∃ m, TransGen (NormalStep fs path) m m) → Returns fs path)) := by
  obtain ⟨r, within, comes⟩ := comesTo_load fs path
  have outcome := (comes.outcome s).1
  refine ⟨⟨r, within, outcome⟩, fun complete => ?_⟩
  have graph : (Returns fs path → ∃ m, TransGen (NormalStep fs path) m m) ∧
      (IsSpellingBlind fs path → (∃ m, TransGen (NormalStep fs path) m m) → Returns fs path) :=
    ⟨Returns.cycle, fun blind ⟨_, cycle⟩ => returns_of_cycle blind cycle⟩
  rw [outcome]
  cases r with
  | ok c =>
    have apart := not_returns_of_loadWithin within
    refine ⟨⟨?_, fun returns => absurd returns apart⟩, fun _ => ⟨_, rfl⟩, graph⟩
    rintro ⟨q, failed⟩
    exact nomatch failed
  | error e =>
    obtain ⟨q, rfl, chain, back⟩ := cycle_of_loadWithin within complete
    have returns : Returns fs path := by
      obtain member | ⟨p, before, behind, same⟩ := back
      · exact ⟨path, q, .refl, chain, List.mem_singleton.1 member⟩
      · exact ⟨p, q, before.to_reflTransGen, behind, same⟩
    exact ⟨⟨fun _ => returns, fun _ => ⟨q, rfl⟩⟩, fun apart => absurd returns apart, graph⟩

/-! ## Tables of configurations -/

/-- Where the bases of the configuration at a path are found, if it can be read and parsed. -/
def links? (fs : FileSystem) (p : Path) : Option (List (Option Path)) :=
  (own fs p).toOption.map fun config => config.bases.map (findBase? fs p)

/-- Configurations by their paths, each with the paths of those that it extends, all of them in the
table. -/
def IsTable (fs : FileSystem) (table : List (Path × List Path)) : Prop :=
  ∀ entry ∈ table, links? fs entry.1 = some (entry.2.map some) ∧ ∀ q ∈ entry.2, q ∈ table.map Prod.fst

instance (fs : FileSystem) (table : List (Path × List Path)) : Decidable (IsTable fs table) := by
  unfold IsTable
  infer_instance

namespace IsTable

variable {fs : FileSystem} {table : List (Path × List Path)} (known : IsTable fs table)
include known

theorem links {p : Path} {qs : List Path} (member : (p, qs) ∈ table) :
    ∃ config, own fs p = .ok config ∧ config.bases.map (findBase? fs p) = qs.map some := by
  obtain ⟨config, parsed, found⟩ := Option.map_eq_some_iff.1 (known _ member).1
  exact ⟨config, Hooked.eq_ok_of_toOption parsed, found⟩

theorem takesFrom_iff {p q : Path} {qs : List Path} (member : (p, qs) ∈ table) :
    TakesFrom fs p q ↔ q ∈ qs := by
  obtain ⟨config, declared, found⟩ := known.links member
  have inside : q ∈ qs ↔ some q ∈ config.bases.map (findBase? fs p) := by simp [found]
  rw [inside, List.mem_map]
  constructor
  · rintro ⟨configToo, base, declaredToo, among, located⟩
    obtain rfl := Except.ok.inj (declaredToo.symm.trans declared)
    exact ⟨base, among, located⟩
  · rintro ⟨base, among, located⟩
    exact ⟨config, base, declared, among, located⟩

theorem takesFrom {p q : Path} (edge : ∃ entry ∈ table, entry.1 = p ∧ q ∈ entry.2) : TakesFrom fs p q := by
  obtain ⟨⟨p, qs⟩, member, rfl, among⟩ := edge
  exact (known.takesFrom_iff member).2 among

theorem isComplete {path : Path} (start : path ∈ table.map Prod.fst) : IsComplete fs path := by
  have inside {p : Path} (reached : ReflTransGen (TakesFrom fs) path p) : p ∈ table.map Prod.fst := by
    induction reached with
    | refl => exact start
    | tail _ takes ih =>
      obtain ⟨⟨p, qs⟩, member, rfl⟩ := List.mem_map.1 ih
      exact (known _ member).2 _ ((known.takesFrom_iff member).1 takes)
  intro p reached
  obtain ⟨⟨p, qs⟩, member, rfl⟩ := List.mem_map.1 (inside reached)
  obtain ⟨config, declared, found⟩ := known.links member
  refine ⟨config, declared, fun base among => ?_⟩
  have located : findBase? fs p base ∈ qs.map some := found ▸ List.mem_map_of_mem among
  obtain ⟨q, -, located⟩ := List.mem_map.1 located
  rw [← located, Option.isSome_some]

end IsTable

/-- A place in a tree by the names of its directories. -/
private def place (names : List String) (source : String) : List Text × Content :=
  (names.map String.toList, .text source.toList)

/-- Two configurations that extend a third, and one that extends both. -/
def diamondTree : FileTree :=
  ⟨[place ["p", "r.json"] "\x7b\"extends\":[\"./a\",\"./b\"]\x7d",
    place ["p", "a.json"] "\x7b\"extends\":\"./c\"\x7d",
    place ["p", "b.json"] "\x7b\"extends\":\"./c\"\x7d",
    place ["p", "c.json"] "\x7b\x7d"], []⟩

/-- Two configurations that extend each other. -/
def loopTree : FileTree :=
  ⟨[place ["p", "r.json"] "\x7b\"extends\":\"./a\"\x7d",
    place ["p", "a.json"] "\x7b\"extends\":\"./r.json\"\x7d"], []⟩

theorem load_cycles_diamond :
    let path : Path := ⟨"/p/r.json".toList⟩
    (∃ loaded, ((load diamondTree.lexical path).outcome ()).1 = .ok loaded) ∧
      ¬ Returns diamondTree.lexical path ∧
      ∃ q, ((load loopTree.lexical path).outcome ()).1 = .error (.config q .cycle) := by
  intro path
  let a : Path := ⟨"/p/a.json".toList⟩
  let b : Path := ⟨"/p/b.json".toList⟩
  let c : Path := ⟨"/p/c.json".toList⟩
  have diamond : IsTable diamondTree.lexical [(path, [a, b]), (a, [c]), (b, [c]), (c, [])] := by
    decide +kernel
  have loop : IsTable loopTree.lexical [(path, [a]), (a, [path])] := by decide +kernel
  obtain ⟨config, loaded, -⟩ := exists_load diamondTree.lexical path (fun _ => ()) (a := ())
    (by decide +kernel) ()
  refine ⟨⟨_, loaded⟩, fun returns => ?_, ?_⟩
  · obtain ⟨q, failed⟩ :=
      ((load_cycles diamondTree.lexical path ()).2 (diamond.isComplete (by simp))).1.2 returns
    exact nomatch loaded.symm.trans failed
  · have there : TakesFrom loopTree.lexical path a := loop.takesFrom (by decide)
    have back : TakesFrom loopTree.lexical a path := loop.takesFrom (by decide)
    have returns : Returns loopTree.lexical path := ⟨path, path, .refl, .tail (.single there) back, rfl⟩
    exact ((load_cycles loopTree.lexical path ()).2 (loop.isComplete (by simp))).1.2 returns

/-- Two configurations that are each reached in two spellings. Through a directory that is left again
they find a third one that leads to the other of them, and without it they find one that ends. -/
def spelledTree : FileTree :=
  ⟨[place ["r.json"] "\x7b\"extends\":[\"a/../n\",\"b/../m\"]\x7d",
    place ["node_modules", "n.json"] "\x7b\"extends\":\"t\"\x7d",
    place ["node_modules", "m.json"] "\x7b\"extends\":\"t\"\x7d",
    place ["node_modules", "t.json"] "\x7b\x7d",
    place ["node_modules", "a", "node_modules", "t.json"]
      "\x7b\"extends\":\"/node_modules/m.json\"\x7d",
    place ["node_modules", "b", "node_modules", "t.json"]
      "\x7b\"extends\":\"/node_modules/n.json\"\x7d"], []⟩

/-- The graph of normal paths may have a cycle where no chain comes back: the configuration is loaded. -/
theorem load_spellings :
    let path : Path := ⟨"/r.json".toList⟩
    IsComplete spelledTree.lexical path ∧
      (∃ m, TransGen (NormalStep spelledTree.lexical path) m m) ∧
      ∃ loaded, ((load spelledTree.lexical path).outcome ()).1 = .ok loaded := by
  intro path
  let installed (name : String) : Path := ⟨"/node_modules/".toList ++ name.toList⟩
  have known : IsTable spelledTree.lexical
      [(path, [installed "a/../n.json", installed "b/../m.json"]),
        (installed "a/../n.json", [installed "a/node_modules/t.json"]), (installed "a/node_modules/t.json", [installed "m.json"]),
        (installed "b/../m.json", [installed "b/node_modules/t.json"]), (installed "b/node_modules/t.json", [installed "n.json"]),
        (installed "n.json", [installed "t.json"]), (installed "m.json", [installed "t.json"]), (installed "t.json", [])] := by
    decide +kernel
  have toOne : TransGen (NormalStep spelledTree.lexical path) (installed "n.json") (installed "m.json") :=
    normalStep_of_chain (p := installed "a/../n.json") (q := installed "m.json")
      (.single (known.takesFrom (by decide))) <|
      .tail (b := installed "a/node_modules/t.json") (.single (known.takesFrom (by decide)))
        (known.takesFrom (by decide))
  have toOther : TransGen (NormalStep spelledTree.lexical path) (installed "m.json") (installed "n.json") :=
    normalStep_of_chain (p := installed "b/../m.json") (q := installed "n.json")
      (.single (known.takesFrom (by decide))) <|
      .tail (b := installed "b/node_modules/t.json") (.single (known.takesFrom (by decide)))
        (known.takesFrom (by decide))
  obtain ⟨c, loaded, -⟩ := exists_load spelledTree.lexical path (fun _ => ()) (a := ())
    (by decide +kernel) ()
  exact ⟨known.isComplete (by simp), ⟨_, toOne.trans toOther⟩, _, loaded⟩

end ModuleHooks.Tsconfig
