import TrustRoots.Toml.Document

/-! The root table of a document binds no key twice. Whatever a statement adds, at the end of a path or
under a header, the table at the top gets a key that it did not have or keeps the keys that it has. -/

namespace TrustRoots.Toml

private theorem foldlM_keeps {step : σ → α → Option σ} {holds : σ → Prop}
    (keeps : ∀ state item next, holds state → step state item = some next → holds next) (items : List α)
    {state last : σ} (initial : holds state) (folded : items.foldlM step state = some last) : holds last := by
  induction items generalizing state with
  | nil =>
    cases folded
    exact initial
  | cons item items ih =>
    rw [List.foldlM_cons] at folded
    obtain ⟨next, stepped, folded⟩ := Option.bind_eq_some_iff.1 folded
    exact ih (keeps _ _ _ initial stepped) folded

namespace Table
variable {table changed other : Table} {key : String} {value : Value}

def Distinct (table : Table) : Prop :=
  (table.map Prod.fst).Nodup

theorem value?_eq_none_iff : table.value? key = none ↔ key ∉ table.map Prod.fst := by
  simp only [value?, List.lookup_eq_none_iff, List.mem_map, bne_iff_ne, not_exists, not_and]
  exact forall₂_congr fun _ _ => ne_comm

theorem Distinct.value?_eq_some_iff (distinct : table.Distinct) :
    table.value? key = some value ↔ (key, value) ∈ table := by
  constructor
  · intro bound
    obtain ⟨front, back, rfl, _⟩ := List.lookup_eq_some_iff.1 bound
    exact List.mem_append_right front List.mem_cons_self
  · intro member
    obtain ⟨front, back, rfl⟩ := List.append_of_mem member
    refine List.lookup_eq_some_iff.2 ⟨front, back, rfl, ?_⟩
    intro earlier before
    rw [Distinct, List.map_append, List.nodup_append] at distinct
    exact bne_iff_ne.2 (distinct.2.2 _ (List.mem_map_of_mem before) key List.mem_cons_self).symm

theorem Distinct.perm (distinct : table.Distinct) (same : other.Perm table) : other.Distinct :=
  (same.map Prod.fst).nodup_iff.2 distinct

theorem Distinct.value?_perm (distinct : table.Distinct) (same : other.Perm table) (key : String) :
    other.value? key = table.value? key := by
  refine Option.ext fun value => ?_
  rw [(distinct.perm same).value?_eq_some_iff, distinct.value?_eq_some_iff, same.mem_iff]

theorem Distinct.mem_iff (distinct : table.Distinct) (otherDistinct : other.Distinct)
    (same : ∀ key, other.value? key = table.value? key) (binding : String × Value) : binding ∈ other ↔ binding ∈ table := by
  rw [← otherDistinct.value?_eq_some_iff, same, distinct.value?_eq_some_iff]

theorem Distinct.front {back : Table} (distinct : Distinct (table ++ back)) : table.Distinct := by
  rw [Distinct, List.map_append, List.nodup_append] at distinct
  exact distinct.1

theorem Distinct.append (distinct : table.Distinct) (absent : table.value? key = none) :
    Distinct (table ++ [(key, value)]) := by
  rw [Distinct, List.map_append, List.nodup_append]
  refine ⟨distinct, List.pairwise_singleton _ key, ?_⟩
  rintro other member added single rfl
  rw [List.mem_singleton.1 single] at member
  exact value?_eq_none_iff.1 absent member

theorem Distinct.set (distinct : table.Distinct) (key : String) (value : Value) : (table.set key value).Distinct := by
  unfold Table.set
  split
  next =>
    have keys : (table.map fun bound => if bound.1 = key then (key, value) else bound).map Prod.fst =
        table.map Prod.fst := by
      rw [List.map_map]
      refine List.map_congr_left fun bound _ => ?_
      by_cases same : bound.1 = key
      · simp [same]
      · simp [same]
    rw [Distinct, keys]
    exact distinct
  next absent => exact distinct.append (Option.not_isSome_iff_eq_none.1 absent)

/-- What is done below a key touches the table at the top only through the value of that key. -/
private theorem Distinct.of_set (distinct : table.Distinct) {inner : Option α} {wrap : α → Value}
    (done : (do return table.set key (wrap (← inner))) = some changed) : changed.Distinct := by
  obtain ⟨below, _, done⟩ := Option.bind_eq_some_iff.1 done
  cases done
  exact distinct.set key (wrap below)

theorem Distinct.assign (distinct : table.Distinct) {path : List String}
    (assigned : table.assign path key value = some changed) : changed.Distinct := by
  cases path with
  | nil =>
    rw [Table.assign] at assigned
    split at assigned
    next => cases assigned
    next absent =>
      cases assigned
      exact distinct.append (Option.not_isSome_iff_eq_none.1 absent)
  | cons step path =>
    -- Whatever the step is bound to, what is not refused is done below it.
    rw [Table.assign] at assigned
    split at assigned
    next => exact distinct.of_set assigned
    next => exact distinct.of_set assigned
    next =>
      split at assigned
      next => cases assigned
      next => exact distinct.of_set assigned
    next =>
      split at assigned
      next => cases assigned
      next => exact distinct.of_set assigned
    next => cases assigned

theorem Distinct.assignAll (distinct : table.Distinct) {assignments : List Assignment}
    (assigned : assignAll assignments table = some changed) : changed.Distinct :=
  foldlM_keeps (fun _ _ _ distinct assigned => Distinct.assign distinct assigned) assignments distinct assigned

private theorem Distinct.placeTable (distinct : table.Distinct) {assignments : List Assignment}
    (placed : placeTable key assignments table = some changed) : changed.Distinct := by
  unfold Table.placeTable at placed
  split at placed
  next => exact distinct.of_set placed
  next => exact distinct.of_set placed
  next => cases placed

private theorem Distinct.placeElement (distinct : table.Distinct) {assignments : List Assignment}
    (placed : placeElement key assignments table = some changed) : changed.Distinct := by
  unfold Table.placeElement at placed
  split at placed
  next => exact distinct.of_set placed
  next => exact distinct.of_set placed
  next => cases placed

private theorem Distinct.descend (distinct : table.Distinct) {change : Table → Option Table} {path : List String}
    (keeps : ∀ next, change table = some next → next.Distinct)
    (descended : descend change path table = some changed) : changed.Distinct := by
  cases path with
  | nil => exact keeps changed descended
  | cons step path =>
    rw [Table.descend] at descended
    split at descended
    next => exact distinct.of_set descended
    next => cases descended
    next => exact distinct.of_set descended
    next => exact distinct.of_set descended
    next => cases descended

end Table

private theorem distinct_addSection {table changed : Table} {part : Section} (distinct : table.Distinct)
    (added : addSection table part = some changed) : changed.Distinct := by
  unfold addSection at added
  cases header : part.header with
  | root =>
    rw [header] at added
    exact distinct.assignAll added
  | table path key =>
    rw [header] at added
    exact distinct.descend (fun _ placed => distinct.placeTable placed) added
  | element path key =>
    rw [header] at added
    exact distinct.descend (fun _ placed => distinct.placeElement placed) added

theorem distinct_of_parse? {source : String} {table : Table} (parsed : parse? source = some table) :
    table.Distinct := by
  obtain ⟨⟨statements, _⟩, _, added⟩ := Option.bind_eq_some_iff.1 parsed
  have empty : Table.Distinct [] := List.Pairwise.nil
  exact foldlM_keeps (fun _ _ _ distinct added => distinct_addSection distinct added) _ empty added

end TrustRoots.Toml
