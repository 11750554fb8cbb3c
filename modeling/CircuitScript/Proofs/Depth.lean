import CircuitScript.Store.Display
import CircuitScript.Store.Equality

/-! The depth to which values are written and compared is never used up: a list or map that comes up a
second time ends the way down, so a greater depth gives the same text and the same answer. -/
namespace CircuitScript

def unseen {α : Type} [DecidableEq α] (all seen : List α) : Nat := (all.filter (· ∉ seen)).length

theorem unseenNil {α : Type} [DecidableEq α] (all : List α) : unseen all [] = all.length := by
  simp [unseen]

theorem unseenCons {α : Type} [DecidableEq α] {all seen : List α} {a : α} (there : a ∈ all)
    (new : a ∉ seen) : unseen all (a :: seen) < unseen all seen := by
  have fewer : all.filter (· ∉ a :: seen) = (all.filter (· ∉ seen)).filter (· ≠ a) := by
    rw [List.filter_filter]
    exact List.filter_congr fun b _ => by simp [List.mem_cons, not_or]
  unfold unseen
  rw [fewer]
  refine List.length_filter_lt_length_iff_exists.mpr ⟨a, ?_, by simp⟩
  exact List.mem_filter.mpr ⟨there, by simpa using new⟩

namespace Store

def containers (store : Store) : List Container :=
  (List.range store.lists.size).map (fun i => .list ⟨i⟩) ++
    (List.range store.maps.size).map (fun i => .map ⟨i⟩)

theorem containersLength (store : Store) : store.containers.length = store.containerCount := by
  simp [containers, containerCount]

theorem listThere {store : Store} {id : ListId} {value : Value}
    (member : value ∈ (store.items id).toList) : .list id ∈ store.containers := by
  have inside : id.index < store.lists.size := by
    rcases Nat.lt_or_ge id.index store.lists.size with inside | outside
    · exact inside
    · simp [items, Array.getElem?_eq_none outside] at member
  exact List.mem_append_left _ (List.mem_map.mpr ⟨id.index, List.mem_range.mpr inside, rfl⟩)

theorem mapThere {store : Store} {id : MapId} {entry : String × Value}
    (member : entry ∈ (store.mapEntries id).entries) : .map id ∈ store.containers := by
  have inside : id.index < store.maps.size := by
    rcases Nat.lt_or_ge id.index store.maps.size with inside | outside
    · exact inside
    · simp [mapEntries, Array.getElem?_eq_none outside, Table.empty] at member
  exact List.mem_append_right _ (List.mem_map.mpr ⟨id.index, List.mem_range.mpr inside, rfl⟩)

theorem textOneDeeper (store : Store) (depth : Nat) (around : List Container) (value : Value)
    (enough : unseen store.containers around < depth) :
    store.textWithin (depth + 1) around value = store.textWithin depth around value := by
  induction depth generalizing around value with
  | zero => exact absurd enough (Nat.not_lt_zero _)
  | succ depth ih =>
    cases value with
    | list id =>
      simp only [textWithin]
      split
      · rfl
      · rename_i new
        -- This list is seen from here on, so what is left to see still fits the depth below.
        have texts := List.map_congr_left fun item (member : item ∈ (store.items id).toList) =>
          have fewer := unseenCons (listThere member) new
          ih (.list id :: around) item (by omega)
        rw [texts]
    | map id =>
      simp only [textWithin]
      split
      · rfl
      · rename_i new
        congr 3
        refine List.map_congr_left fun entry member => ?_
        have fewer := unseenCons (mapThere member) new
        rw [ih (.map id :: around) entry.2 (by omega)]
    | scalar s => simp only [textWithin]
    | func f => simp only [textWithin]
    | scope id => simp only [textWithin]
    | attributes id => simp only [textWithin]

theorem textDeep (store : Store) (value : Value) {depth : Nat}
    (enough : store.containerCount < depth) : store.textWithin depth [] value = store.text value := by
  unfold text
  induction enough with
  | refl => rfl
  | @step depth enough ih =>
    rw [← ih]
    refine store.textOneDeeper depth [] value ?_
    rw [unseenNil, containersLength]
    exact enough

def pairs (store : Store) : List ContainerPair :=
  (List.range store.lists.size).flatMap
      (fun a => (List.range store.lists.size).map fun b => .lists ⟨a⟩ ⟨b⟩) ++
    (List.range store.maps.size).flatMap
      (fun a => (List.range store.maps.size).map fun b => .maps ⟨a⟩ ⟨b⟩)

theorem pairsLength (store : Store) : store.pairs.length = store.pairCount := by
  simp [pairs, pairCount, List.map_const']

theorem listsThere {store : Store} {a b : ListId} {pair : Value × Value}
    (member : pair ∈ (store.items a).toList.zip (store.items b).toList) :
    .lists a b ∈ store.pairs := by
  have first := listThere (List.of_mem_zip member).1
  have second := listThere (List.of_mem_zip member).2
  simp only [containers, List.mem_append, List.mem_map, List.mem_range] at first second
  obtain ⟨i, inside, same⟩ | ⟨i, _, other⟩ := first
  · obtain ⟨j, within, same'⟩ | ⟨j, _, other⟩ := second
    -- A list that is not there has no items, so there is nothing to pair with the other's.
    · cases same
      cases same'
      simp [pairs, inside, within]
    · cases other
  · cases other

theorem mapsThere {store : Store} {a b : MapId} {pair : (String × Value) × (String × Value)}
    (member : pair ∈ (store.mapEntries a).entries.zip (store.mapEntries b).entries) :
    .maps a b ∈ store.pairs := by
  have first := mapThere (List.of_mem_zip member).1
  have second := mapThere (List.of_mem_zip member).2
  simp only [containers, List.mem_append, List.mem_map, List.mem_range] at first second
  obtain ⟨i, _, other⟩ | ⟨i, inside, same⟩ := first
  · cases other
  · obtain ⟨j, _, other⟩ | ⟨j, within, same'⟩ := second
    · cases other
    · cases same
      cases same'
      simp [pairs, inside, within]

theorem sameOneDeeper (store : Store) (depth : Nat) (around : List ContainerPair) (a b : Value)
    (enough : unseen store.pairs around < depth) :
    store.sameWithin (depth + 1) around a b = store.sameWithin depth around a b := by
  induction depth generalizing around a b with
  | zero => exact absurd enough (Nat.not_lt_zero _)
  | succ depth ih =>
    cases a <;> cases b
    case list.list a b =>
      simp only [sameWithin]
      split
      · rfl
      · rename_i new
        congr 1
        rw [Bool.eq_iff_iff, List.all_eq_true, List.all_eq_true]
        refine forall₂_congr fun pair member => ?_
        have fewer := unseenCons (listsThere member) (fun seen => new (.inr seen))
        rw [ih (.lists a b :: around) pair.1 pair.2 (by omega)]
    case map.map a b =>
      simp only [sameWithin]
      split
      · rfl
      · rename_i new
        congr 1
        rw [Bool.eq_iff_iff, List.all_eq_true, List.all_eq_true]
        refine forall₂_congr fun pair member => ?_
        have fewer := unseenCons (mapsThere member) (fun seen => new (.inr seen))
        rw [ih (.maps a b :: around) pair.1.2 pair.2.2 (by omega)]
    all_goals simp only [sameWithin]

theorem sameDeep (store : Store) (a b : Value) {depth : Nat} (enough : store.pairCount < depth) :
    store.sameWithin depth [] a b = store.same a b := by
  unfold same
  induction enough with
  | refl => rfl
  | @step depth enough ih =>
    rw [← ih]
    refine store.sameOneDeeper depth [] a b ?_
    rw [unseenNil, pairsLength]
    exact enough

end Store

end CircuitScript
