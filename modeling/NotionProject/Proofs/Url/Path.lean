import NotionProject.Url.Parser
import NotionProject.Proofs.Url.Encoding

/-!
# Paths read back

A segment of a path that was read is encoded, has no slash of either kind, and stands for no
other place (`Url.IsSegment`). Such segments are read as they are written (`parsePath_flatMap`),
and a path is always read as such segments (`isSegment_of_mem_parsePath`).
-/

namespace NotionProject

open Percent (IsEncoded)

namespace Url

/-- The segment may be in a path that was read. -/
structure IsSegment (segment : List Char) : Prop where
  encoded : IsEncoded Percent.inPath segment
  slash : '/' ∉ segment
  backslash : '\\' ∉ segment
  here : isHere segment = false
  above : isAbove segment = false

theorem isSegment_nil : IsSegment [] where
  encoded := List.forall_mem_nil _
  slash := List.not_mem_nil
  backslash := List.not_mem_nil
  here := by decide +kernel
  above := by decide +kernel

theorem forall_mem_goUp {p : List Char → Prop} {before : List (List Char)}
    (h : ∀ segment ∈ before, p segment) : ∀ segment ∈ goUp before, p segment := by
  cases before with
  | nil => exact h
  | cons segment rest =>
    rw [goUp]
    split
    · exact h
    · exact (List.forall_mem_cons.1 h).2

/-- The segments that are left are those before, those that stand for no other place, and an
empty one. -/
theorem forall_mem_resolve {p : List Char → Prop} (hnil : p []) :
    ∀ {segments before : List (List Char)}, (∀ segment ∈ before, p segment) →
      (∀ segment ∈ segments, isAbove segment = false → isHere segment = false → p segment) →
      ∀ segment ∈ resolve before segments, p segment
  | [], before, hb, _ => fun segment hm => hb segment (List.mem_reverse.1 hm)
  | [last], before, hb, hs => by
    have hlast : ∀ segment ∈ if isAbove last then [] :: goUp before
        else if isHere last then [] :: before else last :: before, p segment := by
      split
      · exact List.forall_mem_cons.2 ⟨hnil, forall_mem_goUp hb⟩
      next ha =>
      split
      · exact List.forall_mem_cons.2 ⟨hnil, hb⟩
      next hh =>
      have hp := hs last List.mem_cons_self (Bool.eq_false_iff.2 ha) (Bool.eq_false_iff.2 hh)
      exact List.forall_mem_cons.2 ⟨hp, hb⟩
    intro segment hm
    refine hlast segment (List.mem_reverse.1 ?_)
    simpa only [resolve, apply_ite List.reverse] using hm
  | first :: next :: rest, before, hb, hs => by
    obtain ⟨hfirst, hrest⟩ := List.forall_mem_cons.1 hs
    unfold resolve
    split
    · exact forall_mem_resolve hnil (forall_mem_goUp hb) hrest
    next ha =>
    split
    · exact forall_mem_resolve hnil hb hrest
    next hh =>
    have hp := hfirst (Bool.eq_false_iff.2 ha) (Bool.eq_false_iff.2 hh)
    exact forall_mem_resolve hnil (List.forall_mem_cons.2 ⟨hp, hb⟩) hrest

/-- A path that has segments is never left without any. -/
theorem resolve_ne_nil : ∀ {segments : List (List Char)}, segments ≠ [] →
    ∀ before : List (List Char), resolve before segments ≠ []
  | [], h, _ => absurd rfl h
  | [segment], _, before => by
    unfold resolve
    split
    · simp
    · split <;> simp
  | segment :: next :: rest, _, before => by
    unfold resolve
    split
    · exact resolve_ne_nil (by simp) _
    · split
      · exact resolve_ne_nil (by simp) _
      · exact resolve_ne_nil (by simp) _

/-- Segments none of which stands for another place stay as they are. -/
theorem resolve_eq_append : ∀ {segments : List (List Char)} (before : List (List Char)),
    (∀ segment ∈ segments, IsSegment segment) → resolve before segments = before.reverse ++ segments
  | [], before, _ => by simp [resolve]
  | [segment], before, h => by
    have hs := h segment List.mem_cons_self
    simp [resolve, hs.above, hs.here]
  | segment :: next :: rest, before, h => by
    obtain ⟨hs, hrest⟩ := List.forall_mem_cons.1 h
    rw [resolve, if_neg (by simp [hs.above]), if_neg (by simp [hs.here]),
      resolve_eq_append _ hrest]
    · simp
    · simp

/-- A path that is read has such segments. -/
theorem isSegment_of_mem_parsePath {text : List Char} :
    ∀ segment ∈ parsePath text, IsSegment segment := by
  unfold parsePath
  refine forall_mem_resolve isSegment_nil (List.forall_mem_nil _) fun segment hm ha hh => ?_
  obtain ⟨part, hp, rfl⟩ := List.mem_map.1 hm
  have hslash : '/' ∉ part := Text.notMem_of_mem_splitAt hp
  have hbackslash : '\\' ∉ part := by
    intro hc
    obtain ⟨c, -, hc⟩ := List.mem_map.1 (Text.mem_of_mem_splitAt hp hc)
    split at hc
    · cases hc
    · next hne => exact hne hc
  exact
    { encoded := Percent.isEncoded_encode (by decide) part
      slash := fun hc => (Percent.mem_of_mem_encode hc).elim (by decide) hslash
      backslash := fun hc => (Percent.mem_of_mem_encode hc).elim (by decide) hbackslash
      here := hh
      above := ha }

theorem parsePath_ne_nil (text : List Char) : parsePath text ≠ [] := by
  refine resolve_ne_nil ?_ _
  simpa [splitPath] using Text.splitAt_ne_nil '/' _

/-- A path is written with a slash before each segment. -/
theorem flatMap_slash {path : List (List Char)} (h : path ≠ []) :
    (path.flatMap fun segment => '/' :: segment) = '/' :: ['/'].intercalate path := by
  induction path with
  | nil => exact absurd rfl h
  | cons segment rest ih =>
    cases rest with
    | nil => simp
    | cons next rest => simp [ih (by simp)]

/-- A path is read as it is written. -/
theorem parsePath_flatMap {path : List (List Char)} (hne : path ≠ [])
    (h : ∀ segment ∈ path, IsSegment segment) :
    parsePath (path.flatMap fun segment => '/' :: segment) = path := by
  have hbackslash : ∀ c ∈ ['/'].intercalate path, c ≠ '\\' :=
    Text.forall_mem_intercalate (by decide) fun segment hs c hc he =>
      (h segment hs).backslash (he ▸ hc)
  have hmap : ((['/'].intercalate path).map fun c => if c = '\\' then '/' else c) =
      ['/'].intercalate path := by
    rw [List.map_congr_left fun c hc => if_neg (hbackslash c hc), List.map_id']
  have hencode : path.map (Percent.encode Percent.inPath) = path := by
    rw [List.map_congr_left fun segment hs => Percent.encode_eq_self (h segment hs).encoded,
      List.map_id']
  rw [flatMap_slash hne, parsePath, splitPath, hmap,
    Text.splitAt_intercalate hne fun segment hs => (h segment hs).slash, hencode,
    resolve_eq_append [] h, List.reverse_nil, List.nil_append]

end Url

end NotionProject
