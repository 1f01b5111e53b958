import Mathlib.Data.List.Sort
import Stellovault.Escrow.Machine

set_option autoImplicit false

/-!
# Listing escrows a page at a time

Rows of one `createdAt` come in an order the database chooses again for every query.
-/

namespace Stellovault.EscrowService

def minPage : Nat := 1

def defaultPage : Nat := 1

def defaultLimit : Nat := 20

def maxLimit : Nat := 100

/-- `coercePage`. A query parameter is absent (`none`), or it is `Number(value)`: a finite
number, or `none` for `NaN` and the infinities. -/
def coercePage (value : Option (Option ℚ)) : Nat :=
  match value.getD (some defaultPage) with
  | some page => if page < minPage then defaultPage else ⌊page⌋.toNat
  | none => defaultPage

def coerceLimit (value : Option (Option ℚ)) : Nat :=
  match value.getD (some defaultLimit) with
  | some limit => if limit < 1 then defaultLimit else min maxLimit ⌊limit⌋.toNat
  | none => defaultLimit

structure EscrowListQuery where
  buyerId : Option String
  sellerId : Option String
  status : Option String
  page : Option (Option ℚ)
  limit : Option (Option ℚ)

/-- The `where` of the two queries: a field is compared only when the query gives it. -/
structure EscrowFilter where
  buyerId : Option String
  sellerId : Option String
  status : Option EscrowStatus

def EscrowFilter.matches (filter : EscrowFilter) (escrow : Escrow) : Bool :=
  filter.buyerId.all (· = escrow.buyerId) && filter.sellerId.all (· = escrow.sellerId) &&
    filter.status.all (· = escrow.status)

/-- The `where` object `listEscrows` builds; both queries fail if a text value of it holds
U+0000. -/
def listWhere (query : EscrowListQuery) : Except AppError EscrowFilter := do
  let status ← match trimToNull query.status with
    | some _ => some <$> normalizeStatus query.status "status"
    | none => pure none
  let filter : EscrowFilter := ⟨trimToNull query.buyerId, trimToNull query.sellerId, status⟩
  textParameters (filter.buyerId.toList ++ filter.sellerId.toList)
  return filter

structure EscrowPage where
  items : List Escrow
  page : Nat
  limit : Nat
  total : Nat
  totalPages : Nat
  deriving DecidableEq

/-- `listEscrows`. `order` is how the database answers `orderBy: { createdAt: "desc" }` for
this query; `Math.ceil(total / limit)` is written as a division rounded up. -/
def listEscrows (sys : System) (order : List Escrow → List Escrow) (query : EscrowListQuery) :
    Except AppError EscrowPage := do
  let page := coercePage query.page
  let limit := coerceLimit query.limit
  let skip := (page - 1) * limit
  let filter ← listWhere query
  let matching := sys.escrows.filter filter.matches
  return ⟨((order matching).drop skip).take limit, page, limit, matching.length,
    max 1 ((matching.length + limit - 1) / limit)⟩

/-- One row is at least as new as another. -/
def NewerOrSame (escrow other : Escrow) : Prop := other.createdAt ≤ escrow.createdAt

instance newerOrSameDecidable : DecidableRel NewerOrSame := fun _ _ => Nat.decLe _ _

instance newerOrSameTotal : IsTotal Escrow NewerOrSame := ⟨fun _ _ => Nat.le_total _ _⟩

instance newerOrSameTrans : IsTrans Escrow NewerOrSame := ⟨fun _ _ _ first second => Nat.le_trans second first⟩

/-- A correct answer of the database to `orderBy: { createdAt: "desc" }`: the rows it was given,
newest first. Rows of one `createdAt` may come in any order, and each query picks its own. -/
def OrdersByCreatedAtDesc (order : List Escrow → List Escrow) : Prop :=
  ∀ rows, (order rows).Perm rows ∧ (order rows).Sorted NewerOrSame

/-- Newest first, rows of one `createdAt` in the order they were given. -/
def newestFirst (rows : List Escrow) : List Escrow := rows.insertionSort NewerOrSame

theorem newestFirst_orders : OrdersByCreatedAtDesc newestFirst :=
  fun rows => ⟨List.perm_insertionSort _ rows, List.sorted_insertionSort _ rows⟩

theorem OrdersByCreatedAtDesc.comp_reverse {order : List Escrow → List Escrow}
    (valid : OrdersByCreatedAtDesc order) : OrdersByCreatedAtDesc (order ∘ List.reverse) :=
  fun rows => ⟨(valid rows.reverse).1.trans (List.reverse_perm rows), (valid rows.reverse).2⟩

theorem OrdersByCreatedAtDesc.eq_of_nodup {order other : List Escrow → List Escrow}
    (valid : OrdersByCreatedAtDesc order) (otherValid : OrdersByCreatedAtDesc other)
    {rows : List Escrow} (distinct : (rows.map (·.createdAt)).Nodup) : order rows = other rows := by
  have strict : ∀ {answer : List Escrow}, answer.Perm rows → answer.Sorted NewerOrSame →
      answer.Sorted fun escrow later => later.createdAt < escrow.createdAt := by
    intro answer perm sorted
    have apart : answer.Pairwise fun escrow later => escrow.createdAt ≠ later.createdAt :=
      List.pairwise_map.mp ((perm.map _).nodup_iff.mpr distinct)
    exact (sorted.and apart).imp fun ⟨le, ne⟩ => lt_of_le_of_ne le (Ne.symm ne)
  have antisymm : IsAntisymm Escrow fun escrow later => later.createdAt < escrow.createdAt :=
    ⟨fun _ _ first second => absurd (first.trans second) (lt_irrefl _)⟩
  exact List.eq_of_perm_of_sorted ((valid rows).1.trans (otherValid rows).1.symm)
    (strict (valid rows).1 (valid rows).2) (strict (otherValid rows).1 (otherValid rows).2)

theorem coercePage_natCast {page : Nat} (positive : 1 ≤ page) :
    coercePage (some (some (page : ℚ))) = page := by
  have notBelow : ¬ (page : ℚ) < (minPage : ℚ) := by
    unfold minPage; exact_mod_cast Nat.not_lt.mpr positive
  simp [coercePage, notBelow]

theorem one_le_coerceLimit (value : Option (Option ℚ)) : 1 ≤ coerceLimit value := by
  unfold coerceLimit
  split
  next limit _ =>
    by_cases below : limit < 1
    · rw [if_pos below]; decide
    · have floor : (1 : ℤ) ≤ ⌊limit⌋ := Int.le_floor.mpr (by exact_mod_cast not_lt.mp below)
      rw [if_neg below]; unfold maxLimit; omega
  next => decide

/-- The query for page `page` of the same listing. -/
def EscrowListQuery.atPage (query : EscrowListQuery) (page : Nat) : EscrowListQuery :=
  { query with page := some (some page) }

/-- The items of pages `1, …, totalPages`, the number of pages read from the answer to page 1;
page `k` is answered with the order `orders k`. -/
def listedPages (sys : System) (orders : Nat → List Escrow → List Escrow) (query : EscrowListQuery) :
    List Escrow :=
  match listEscrows sys (orders 1) (query.atPage 1) with
  | .error _ => []
  | .ok first => (List.range first.totalPages).flatMap fun index =>
      match listEscrows sys (orders (index + 1)) (query.atPage (index + 1)) with
      | .ok answer => answer.items
      | .error _ => []

theorem listEscrows_ok (sys : System) (order : List Escrow → List Escrow) {query : EscrowListQuery}
    {filter : EscrowFilter} (accepted : listWhere query = .ok filter) :
    listEscrows sys order query =
      .ok ⟨((order (sys.escrows.filter filter.matches)).drop
          ((coercePage query.page - 1) * coerceLimit query.limit)).take (coerceLimit query.limit),
        coercePage query.page, coerceLimit query.limit, (sys.escrows.filter filter.matches).length,
        max 1 (((sys.escrows.filter filter.matches).length + coerceLimit query.limit - 1) /
          coerceLimit query.limit)⟩ := by
  simp [listEscrows, accepted]

theorem flatMap_pages {α : Type} (rows : List α) (limit pages : Nat) :
    (List.range pages).flatMap (fun index => (rows.drop (index * limit)).take limit) =
      rows.take (pages * limit) := by
  induction pages with
  | zero => simp
  | succ pages ih =>
    rw [List.range_succ, List.flatMap_append, ih, Nat.succ_mul, List.take_add]
    simp

theorem length_le_totalPages (total limit : Nat) (positive : 1 ≤ limit) :
    total ≤ max 1 ((total + limit - 1) / limit) * limit := by
  have split := Nat.div_add_mod (total + limit - 1) limit
  have remainder := Nat.mod_lt (total + limit - 1) (show 0 < limit by omega)
  have atLeast := Nat.le_max_right 1 ((total + limit - 1) / limit)
  have grows := Nat.mul_le_mul_right limit atLeast
  rw [Nat.mul_comm] at split
  omega

theorem listEscrows_atPage (sys : System) (order : List Escrow → List Escrow)
    {query : EscrowListQuery} {filter : EscrowFilter} (accepted : listWhere query = .ok filter)
    {page : Nat} (positive : 1 ≤ page) :
    listEscrows sys order (query.atPage page) =
      .ok ⟨((order (sys.escrows.filter filter.matches)).drop ((page - 1) * coerceLimit query.limit)).take
          (coerceLimit query.limit),
        page, coerceLimit query.limit, (sys.escrows.filter filter.matches).length,
        max 1 (((sys.escrows.filter filter.matches).length + coerceLimit query.limit - 1) /
          coerceLimit query.limit)⟩ := by
  rw [listEscrows_ok sys order (show listWhere (query.atPage page) = .ok filter from accepted)]
  simp only [EscrowListQuery.atPage, coercePage_natCast positive]

theorem distinct_timestamps_paginate (sys : System) {query : EscrowListQuery} {filter : EscrowFilter}
    (accepted : listWhere query = .ok filter) (orders : Nat → List Escrow → List Escrow)
    (valid : ∀ page, OrdersByCreatedAtDesc (orders page))
    (distinct : ((sys.escrows.filter filter.matches).map (·.createdAt)).Nodup) :
    (listedPages sys orders query).Perm (sys.escrows.filter filter.matches) ∧
      (listedPages sys orders query).Sorted NewerOrSame := by
  have same : ∀ page, orders page (sys.escrows.filter filter.matches) =
      newestFirst (sys.escrows.filter filter.matches) :=
    fun page => (valid page).eq_of_nodup newestFirst_orders distinct
  have length : (newestFirst (sys.escrows.filter filter.matches)).length =
      (sys.escrows.filter filter.matches).length := (newestFirst_orders _).1.length_eq
  have listed : listedPages sys orders query = newestFirst (sys.escrows.filter filter.matches) := by
    unfold listedPages
    simp only [listEscrows_atPage sys _ accepted (Nat.le_refl 1),
      listEscrows_atPage sys _ accepted (Nat.le_add_left 1 _), same, Nat.add_sub_cancel,
      flatMap_pages]
    exact List.take_of_length_le (length ▸ length_le_totalPages _ _ (one_le_coerceLimit _))
  rw [listed]
  exact newestFirst_orders _

theorem coerceLimit_natCast {limit : Nat} (positive : 1 ≤ limit) (bounded : limit ≤ maxLimit) :
    coerceLimit (some (some (limit : ℚ))) = limit := by
  have notBelow : ¬ (limit : ℚ) < 1 := by exact_mod_cast Nat.not_lt.mpr positive
  simp [coerceLimit, notBelow, bounded]

/-- Two escrows created in the same millisecond. -/
def tiedEscrows : System :=
  ⟨["buyer", "seller"], [⟨"first", "buyer", "seller", 500, "USDC", .pending, none, 1000, 0⟩,
    ⟨"second", "buyer", "seller", 500, "USDC", .pending, none, 1000, 0⟩], "escrow-contract", 0,
    [], [], [], []⟩

/-- Every escrow, one a page. -/
def onePerPage : EscrowListQuery := ⟨none, none, none, none, some (some 1)⟩

/-- The database breaks the tie one way for page 1 and the other way for the pages after it. -/
def tieOrders (page : Nat) : List Escrow → List Escrow :=
  if page = 1 then newestFirst else newestFirst ∘ List.reverse

theorem tieOrders_orders (page : Nat) : OrdersByCreatedAtDesc (tieOrders page) := by
  unfold tieOrders
  split
  · exact newestFirst_orders
  · exact newestFirst_orders.comp_reverse

theorem tied_escrow_listed_twice :
    (∀ page, OrdersByCreatedAtDesc (tieOrders page)) ∧
      listedPages tiedEscrows tieOrders onePerPage =
        [⟨"first", "buyer", "seller", 500, "USDC", .pending, none, 1000, 0⟩,
          ⟨"first", "buyer", "seller", 500, "USDC", .pending, none, 1000, 0⟩] := by
  have accepted : listWhere onePerPage = .ok ⟨none, none, none⟩ := rfl
  have limit : coerceLimit onePerPage.limit = 1 := by
    simpa using @coerceLimit_natCast 1 le_rfl (by decide)
  refine ⟨tieOrders_orders, ?_⟩
  unfold listedPages
  simp only [listEscrows_atPage tiedEscrows _ accepted (Nat.le_refl 1),
    listEscrows_atPage tiedEscrows _ accepted (Nat.le_add_left 1 _), limit]
  decide

/-- The same two escrows, a millisecond apart. -/
def staggeredEscrows : System :=
  { tiedEscrows with escrows := [⟨"first", "buyer", "seller", 500, "USDC", .pending, none, 1000, 0⟩,
    ⟨"second", "buyer", "seller", 500, "USDC", .pending, none, 1000, 1⟩] }

theorem staggered_escrows_paginate :
    listWhere onePerPage = .ok ⟨none, none, none⟩ ∧
      (∀ page, OrdersByCreatedAtDesc (tieOrders page)) ∧
      ((staggeredEscrows.escrows.filter (EscrowFilter.matches ⟨none, none, none⟩)).map
        (·.createdAt)).Nodup ∧
      (listedPages staggeredEscrows tieOrders onePerPage).Perm
        (staggeredEscrows.escrows.filter (EscrowFilter.matches ⟨none, none, none⟩)) ∧
      (listedPages staggeredEscrows tieOrders onePerPage).Sorted NewerOrSame :=
  ⟨rfl, tieOrders_orders, by decide,
    distinct_timestamps_paginate staggeredEscrows
      (show listWhere onePerPage = .ok ⟨none, none, none⟩ from rfl) tieOrders tieOrders_orders
      (by decide)⟩

end Stellovault.EscrowService
