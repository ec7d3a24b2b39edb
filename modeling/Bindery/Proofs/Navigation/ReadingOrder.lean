import Bindery.Navigation.Basic
import Mathlib.Data.List.Forall2
import Mathlib.Data.List.Sort

namespace Bindery

variable {item : NavItem} {items : List NavItem} {address : List Nat} {reference : Text}
variable {i k : Nat}

/-- A page is referred to at an address: at an index among the entries, or inside the group at an
    index. -/
inductive Refers : List NavItem → List Nat → Text → Prop
  | page {items : List NavItem} {i : Nat} {reference : Text}
    (h : items[i]? = some (.page reference)) : Refers items [i] reference
  | group {items inner : List NavItem} {i : Nat} {name : Text} {rest : List Nat}
    {reference : Text} (h : items[i]? = some (.group name inner))
    (hinner : Refers inner rest reference) : Refers items (i :: rest) reference

/-- The references are all those of the entries, one for each address, in the order of the
    addresses. -/
def InReadingOrder (items : List NavItem) (references : List Text) : Prop :=
  ∃ addresses : List (List Nat), addresses.Pairwise (· < ·) ∧
    List.Forall₂ (Refers items) addresses references ∧
    ∀ address reference, Refers items address reference → address ∈ addresses

theorem Refers.unique {other : Text} (h : Refers items address reference)
    (hother : Refers items address other) : reference = other := by
  induction h with
  | page h =>
    cases hother with
    | page hother => exact NavItem.page.inj (Option.some.inj (h.symm.trans hother))
    | group _ hinner => cases hinner
  | group h hinner ih =>
    cases hother with
    | page _ => cases hinner
    | group hother hinner' =>
      obtain ⟨-, rfl⟩ := NavItem.group.inj (Option.some.inj (h.symm.trans hother))
      exact ih hinner'

theorem exists_refers_of_mem {addresses : List (List Nat)} {references : List Text}
    (h : List.Forall₂ (Refers items) addresses references) (haddress : address ∈ addresses) :
    ∃ reference, Refers items address reference := by
  induction h with
  | nil => exact absurd haddress List.not_mem_nil
  | cons hfirst _ ih =>
    rcases List.mem_cons.1 haddress with rfl | haddress
    · exact ⟨_, hfirst⟩
    · exact ih haddress

/-- There is one reading order. -/
theorem InReadingOrder.unique {references others : List Text}
    (h : InReadingOrder items references) (hothers : InReadingOrder items others) :
    references = others := by
  obtain ⟨addresses, hsorted, hrefers, hall⟩ := h
  obtain ⟨addresses', hsorted', hrefers', hall'⟩ := hothers
  obtain rfl : addresses = addresses' := by
    refine hsorted.eq_of_mem_iff hsorted' fun address => ⟨fun h => ?_, fun h => ?_⟩
    · obtain ⟨reference, hreference⟩ := exists_refers_of_mem hrefers h
      exact hall' address reference hreference
    · obtain ⟨reference, hreference⟩ := exists_refers_of_mem hrefers' h
      exact hall address reference hreference
  exact List.right_unique_forall₂' (fun _ _ _ h h' => h.unique h') hrefers hrefers'

mutual

/-- The addresses of the references in the entry at an index, in reading order. -/
def NavItem.addresses (i : Nat) : NavItem → List (List Nat)
  | .page _ => [[i]]
  | .group _ items => (NavItem.addressesFrom 0 items).map (i :: ·)

/-- The addresses of the references in entries from an index on, in reading order. -/
def NavItem.addressesFrom (i : Nat) : List NavItem → List (List Nat)
  | [] => []
  | item :: rest => item.addresses i ++ NavItem.addressesFrom (i + 1) rest

end

theorem exists_cons_of_mem_addresses (h : address ∈ item.addresses i) :
    ∃ rest, address = i :: rest := by
  cases item with
  | page reference =>
    rw [NavItem.addresses, List.mem_singleton] at h
    exact ⟨[], h⟩
  | group name inner =>
    rw [NavItem.addresses, List.mem_map] at h
    obtain ⟨rest, -, rfl⟩ := h
    exact ⟨rest, rfl⟩

theorem exists_cons_of_mem_addressesFrom (h : address ∈ NavItem.addressesFrom k items) :
    ∃ i rest, address = i :: rest ∧ k ≤ i := by
  induction items generalizing k with
  | nil => exact absurd h List.not_mem_nil
  | cons item items ih =>
    rw [NavItem.addressesFrom, List.mem_append] at h
    rcases h with h | h
    · obtain ⟨rest, rfl⟩ := exists_cons_of_mem_addresses h
      exact ⟨k, rest, rfl, Nat.le_refl k⟩
    · obtain ⟨i, rest, rfl, hi⟩ := ih h
      exact ⟨i, rest, rfl, Nat.le_of_succ_le hi⟩

mutual

theorem NavItem.pairwise_addresses (i : Nat) (item : NavItem) :
    (item.addresses i).Pairwise (· < ·) := by
  cases item with
  | page reference => exact List.pairwise_singleton _ _
  | group name inner =>
    rw [NavItem.addresses, List.pairwise_map]
    refine (NavItem.pairwise_addressesFrom 0 inner).imp fun h => ?_
    exact List.cons_lt_cons_iff.2 (.inr ⟨rfl, h⟩)

theorem NavItem.pairwise_addressesFrom (k : Nat) (items : List NavItem) :
    (NavItem.addressesFrom k items).Pairwise (· < ·) := by
  cases items with
  | nil => exact List.Pairwise.nil
  | cons item items =>
    rw [NavItem.addressesFrom, List.pairwise_append]
    refine ⟨NavItem.pairwise_addresses k item, NavItem.pairwise_addressesFrom (k + 1) items, ?_⟩
    intro address haddress other hother
    obtain ⟨rest, rfl⟩ := exists_cons_of_mem_addresses haddress
    obtain ⟨i, rest', rfl, hi⟩ := exists_cons_of_mem_addressesFrom hother
    exact List.cons_lt_cons_iff.2 (.inl hi)

end

mutual

theorem NavItem.forall₂_pages (all : List NavItem) (i : Nat) (item : NavItem)
    (h : all[i]? = some item) :
    List.Forall₂ (Refers all) (item.addresses i) item.pages := by
  cases item with
  | page reference => exact .cons (.page h) .nil
  | group name inner =>
    rw [NavItem.addresses, NavItem.pages, List.forall₂_map_left_iff]
    have hinner := NavItem.forall₂_pagesOf inner 0 inner List.drop_zero
    exact hinner.imp fun rest reference hrefers => .group h hrefers

/-- The entries are the last ones of a longer list, in which their indices go on from those of the
    entries before them. -/
theorem NavItem.forall₂_pagesOf (all : List NavItem) (k : Nat) (items : List NavItem)
    (h : all.drop k = items) :
    List.Forall₂ (Refers all) (NavItem.addressesFrom k items) (NavItem.pagesOf items) := by
  cases items with
  | nil => exact .nil
  | cons item items =>
    have hitem : all[k]? = some item := by
      rw [← List.head?_drop, h, List.head?_cons]
    have hrest : all.drop (k + 1) = items := by
      rw [← List.tail_drop, h, List.tail_cons]
    rw [NavItem.addressesFrom, NavItem.pagesOf]
    exact List.rel_append (NavItem.forall₂_pages all k item hitem)
      (NavItem.forall₂_pagesOf all (k + 1) items hrest)

end

theorem addresses_subset_addressesFrom (h : items[i]? = some item) :
    item.addresses (k + i) ⊆ NavItem.addressesFrom k items := by
  induction items generalizing i k with
  | nil => cases h
  | cons first items ih =>
    rw [NavItem.addressesFrom]
    cases i with
    | zero =>
      obtain rfl : first = item := Option.some.inj h
      exact List.subset_append_left _ _
    | succ i =>
      rw [Nat.add_succ, ← Nat.succ_add]
      exact List.Subset.trans (ih h) (List.subset_append_right _ _)

theorem mem_addressesFrom_of_refers (h : Refers items address reference) :
    address ∈ NavItem.addressesFrom 0 items := by
  induction h with
  | @page items i reference h =>
    have hsubset := addresses_subset_addressesFrom (k := 0) h
    rw [Nat.zero_add] at hsubset
    exact hsubset List.mem_cons_self
  | @group items inner i name rest reference h _ ih =>
    have hsubset := addresses_subset_addressesFrom (k := 0) h
    rw [Nat.zero_add] at hsubset
    exact hsubset (List.mem_map_of_mem ih)

/-- The pages of entries are listed in reading order. -/
theorem inReadingOrder_pagesOf (items : List NavItem) :
    InReadingOrder items (NavItem.pagesOf items) :=
  ⟨NavItem.addressesFrom 0 items, NavItem.pairwise_addressesFrom 0 items,
    NavItem.forall₂_pagesOf items 0 items List.drop_zero,
    fun _ _ => mem_addressesFrom_of_refers⟩

/-- A group as an entry. -/
def NavGroup.entry (group : NavGroup) : NavItem :=
  .group group.name group.items

theorem pagesOf_map_entry (groups : List NavGroup) :
    NavItem.pagesOf (groups.map NavGroup.entry) = groups.flatMap NavGroup.pages := by
  induction groups with
  | nil => rfl
  | cons group groups ih =>
    rw [List.map_cons, NavItem.pagesOf, ih, List.flatMap_cons, NavGroup.entry, NavItem.pages,
      NavGroup.pages]

end Bindery
