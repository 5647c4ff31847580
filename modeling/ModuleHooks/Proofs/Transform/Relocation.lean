import ModuleHooks.Proofs.Json.Rereading
import ModuleHooks.Proofs.Text.Base64
import ModuleHooks.Proofs.Text.Utf8
import ModuleHooks.Transform.SourceMap

/-!
Maps that point at a file. Whatever object a map was, it comes out as an object whose only source is the path
(`relocate_pointsAt`) and which has the other members of the map (`relocate_repoints`), and what the comment carries
is read back as the map (`exists_comment`).
-/
namespace ModuleHooks

namespace SourceMap

/-- The text is a JSON object. It lists its sources once, the path and nothing else, and nothing is to be put
in front of them. -/
def PointsAt (map : Text) (path : Path) : Prop :=
  ∃ members body, JsonDocument.ofText? map = some (.object members) ∧
    (members.filter fun member => Json.unescape? member.1 = some sourcesMember).map Prod.snd =
      [.array [.string body]] ∧
    Json.unescape? body = some path.text ∧
    ∀ member ∈ members, Json.unescape? member.1 ≠ some sourceRootMember

theorem relocate_ok {original map : Text} {path : Path} (relocated : relocate original path = .ok map) :
    ∃ members, Json.parse? original = some (.object members) ∧
      map = Json.write (.object (pointAt path members)) := by
  unfold relocate at relocated
  split at relocated
  case h_1 => exact nomatch relocated
  case h_2 members read => exact ⟨members, read, (Except.ok.inj relocated).symm⟩
  case h_3 => exact nomatch relocated

/-- A relocated map points at its file. -/
theorem relocate_pointsAt {original map : Text} {path : Path}
    (relocated : relocate original path = .ok map) : PointsAt map path := by
  obtain ⟨members, read, rfl⟩ := relocate_ok relocated
  obtain ⟨distinct, -⟩ := Json.isReread_of_parse?_object read
  have unrooted : sourceRootMember ∉ (pointAt path members).map Prod.fst := by
    intro member
    obtain same | member := Members.mem_names_insert.1 member
    · exact absurd same (by decide)
    · exact Members.notMem_names_remove distinct member
  have sources : Members.named sourcesMember (pointAt path members) =
      [(sourcesMember, .array [.string path.text])] := Members.named_insert distinct.remove
  refine ⟨Json.memberDocuments (pointAt path members), Json.escaped path.text, ?_, ?_,
    Json.unescape?_escaped _, ?_⟩
  · rw [Json.ofText?_write, Json.document]
  · rw [Json.memberDocuments_eq_map, List.filter_map]
    have same : ((fun member : Text × JsonDocument => decide (Json.unescape? member.1 = some sourcesMember)) ∘
        fun member : Text × Json => (Json.escaped member.1, Json.document member.2)) =
        fun member => decide (member.1 = sourcesMember) := by
      funext member
      simp [Json.unescape?_escaped]
    rw [same]
    unfold Members.named at sources
    rw [sources]
    simp [Json.document, Json.documents]
  · rw [Json.memberDocuments_eq_map]
    intro member inside
    obtain ⟨⟨name, value⟩, there, rfl⟩ := List.mem_map.1 inside
    rw [Json.unescape?_escaped]
    rintro same
    exact unrooted (List.mem_map.2 ⟨_, there, Option.some.inj same⟩)

/-! ## Relocating again -/

/-- The members without a root and with the path as the only source, all others as they were. -/
structure Repoints (path : Path) (before after : Members Json) : Prop where
  distinct : after.IsDistinct
  sources : Members.get? sourcesMember after = some (.array [.string path.text])
  unrooted : Members.get? sourceRootMember after = none
  others : ∀ name, name ≠ sourcesMember → name ≠ sourceRootMember →
    Members.get? name after = Members.get? name before

section

variable {members : Members Json}

theorem repoints_pointAt (distinct : members.IsDistinct) (path : Path) :
    Repoints path members (pointAt path members) := by
  have apart : sourceRootMember ≠ sourcesMember := by decide
  constructor
  case distinct => exact distinct.remove.insert
  case sources =>
    unfold pointAt
    rw [Members.get?_insert, if_pos rfl]
  case unrooted =>
    unfold pointAt
    rw [Members.get?_insert, if_neg apart, Members.get?_remove distinct, if_pos rfl]
  case others =>
    intro name other unrooted
    unfold pointAt
    rw [Members.get?_insert, if_neg other, Members.get?_remove distinct, if_neg unrooted]

/-- There is no root left to remove, and the source is set in its place. -/
theorem pointAt_pointAt (distinct : members.IsDistinct) (p q : Path) :
    pointAt q (pointAt p members) = pointAt q members := by
  have unrooted : sourceRootMember ∉ (pointAt p members).map Prod.fst :=
    Members.get?_eq_none_iff.1 (repoints_pointAt distinct p).unrooted
  rw [pointAt, Members.remove_of_notMem unrooted]
  exact Members.insert_insert _

/-- A relocated map has its values from the map, but for the list of sources. -/
theorem mem_pointAt (distinct : members.IsDistinct) {path : Path} {member : Text × Json}
    (there : member ∈ pointAt path members) :
    member = (sourcesMember, .array [.string path.text]) ∨ member ∈ members := by
  obtain same | left := Members.mem_of_mem_insert there
  · exact .inl same
  · exact .inr (Members.remove_subset distinct left)

/-- The text of a relocated map is read as its members. -/
theorem parse?_write_pointAt {original : Text} (read : Json.parse? original = some (.object members))
    (integers : ∀ n ∈ Json.numbers (.object members), n.IsInteger) (path : Path) :
    Json.parse? (Json.write (.object (pointAt path members))) = some (.object (pointAt path members)) := by
  obtain ⟨distinct, each⟩ := Json.isReread_of_parse?_object read
  apply Json.IsReread.parse?_write_of_integers
  · apply Json.isReread_object (by decide) (repoints_pointAt distinct path).distinct
    intro member there
    obtain rfl | inside := mem_pointAt distinct there
    · apply Json.isReread_array (by decide)
      intro item only
      obtain rfl := List.mem_singleton.1 only
      exact Json.isReread_string _ _
    · exact each member inside
  · intro n number
    obtain ⟨member, there, inside⟩ := Json.mem_numbers_object.1 number
    obtain rfl | old := mem_pointAt distinct there
    · exact nomatch inside
    · exact integers n (Json.mem_numbers_object.2 ⟨member, old, inside⟩)

end

/-- A map that is an object with integers only is relocated to an object without a root, whose only source is the
path, and which is the same in all else. Relocating it there again changes nothing, and relocating it elsewhere does
what it does to the map that it was made from. A text that is no JSON and one that is no object is not relocated. -/
theorem relocate_repoints (map : Text) (p q : Path) :
    (∀ members, Json.parse? map = some (.object members) →
      (∀ n ∈ Json.numbers (.object members), n.IsInteger) →
      ∃ result after, relocate map p = .ok result ∧ Json.parse? result = some (.object after) ∧
        Repoints p members after ∧ relocate result p = .ok result ∧ relocate result q = relocate map q) ∧
    (Json.parse? map = none → relocate map p = .error .malformedMap) ∧
    ∀ v, Json.parse? map = some v → (∀ members, v ≠ .object members) → relocate map p = .error .mapNotAnObject := by
  refine ⟨?_, ?_, ?_⟩
  · intro members read integers
    obtain ⟨distinct, -⟩ := Json.isReread_of_parse?_object read
    have relocated (text : Text) (members : Members Json) (read : Json.parse? text = some (.object members))
        (path : Path) : relocate text path = .ok (Json.write (.object (pointAt path members))) := by
      unfold relocate
      rw [read]
    have reread := parse?_write_pointAt read integers p
    refine ⟨_, pointAt p members, relocated map members read p, reread, repoints_pointAt distinct p, ?_, ?_⟩
    · rw [relocated _ _ reread, pointAt_pointAt distinct]
    · rw [relocated _ _ reread, relocated map members read, pointAt_pointAt distinct]
  · intro malformed
    unfold relocate
    rw [malformed]
  · intro v read other
    unfold relocate
    rw [read]
    cases v with
    | object members => exact absurd rfl (other members)
    | _ => rfl

/-- A map with a root, as it is written. -/
theorem relocate_repoints_rooted :
    let members : Members Json := [("sourceRoot".toList, .string "/src".toList),
      ("sources".toList, .array [.string "a.ts".toList]), ("version".toList, .number (.whole 3))]
    let map := "\x7b\"sourceRoot\":\"/src\",\"sources\":[\"a.ts\"],\"version\":3\x7d".toList
    Json.parse? map = some (.object members) ∧ (∀ n ∈ Json.numbers (.object members), n.IsInteger) ∧
      ∃ result after, relocate map ⟨"/c.ts".toList⟩ = .ok result ∧ Json.parse? result = some (.object after) ∧
        Repoints ⟨"/c.ts".toList⟩ members after ∧ relocate result ⟨"/c.ts".toList⟩ = .ok result ∧
        relocate result ⟨"/d.ts".toList⟩ = relocate map ⟨"/d.ts".toList⟩ := by
  intro members map
  have integers : ∀ n ∈ Json.numbers (.object members), n.IsInteger := by
    simp [members, Json.numbers, Json.memberNumbers, Json.itemNumbers, JsonNumber.IsInteger]
  have written : map = Json.write (.object members) := by decide +kernel
  have reread : Json.IsReread Json.nestingLimit (.object members) := by
    apply Json.isReread_object (by decide) (by decide)
    simp only [members, List.forall_mem_cons]
    refine ⟨Json.isReread_string _ _, Json.isReread_array (by decide) ?_,
      Json.isReread_number _ ⟨by decide, by decide⟩, List.forall_mem_nil _⟩
    exact List.forall_mem_singleton.2 (Json.isReread_string _ _)
  have read : Json.parse? map = some (.object members) := by
    rw [written]
    exact reread.parse?_write_of_integers integers
  exact ⟨read, integers, (relocate_repoints map _ _).1 members read integers⟩

/-- The text that the payload of a comment carries. -/
def carried? (payload : Text) : Option Text := (Base64.ofPadded? payload).bind Utf8.decode?

/-- The comment of a map carries it. -/
theorem exists_comment (map : Text) : ∃ payload, comment map = commentStart ++ payload ∧ carried? payload = some map := by
  refine ⟨_, rfl, ?_⟩
  rw [carried?, Base64.ofPadded?_padded, Option.bind_some, Utf8.decode?_encode]

end SourceMap
end ModuleHooks
