/-
# SiteAuditor.PriceFetch — from the API's responses to the rows `main` exports

The fetching half of `price_scrape.py`. `get_doctors` reads the doctor list,
`get_doctor_services` one doctor's services, `get_lab_services` the laboratories'
services; each walks the decoded response (`Json`) with `get`, `len`, indexing and loops,
and raises where Python raises. `main` calls `get_doctors` outside any `try`, then, for
each doctor, `get_doctor_services` inside one that turns any exception into `continue`,
then `get_lab_services` inside one that turns any exception into no lab rows.

A response is the value `r.json()` returned, or the exception the request,
`raise_for_status` or the decoding raised: `Except Exn Json`. The details endpoint is
the function `details` from a `DoctorId` to its response.

* `getDoctorServices` and `getLabServices` are the two members of `serviceRows`, the loop
  over `data` and each entry's `Services` they share.
* `collectDoctorRows` is `main`'s loop; `fetchRows` is `main` up to its data frames.

`services_read_iff` and `main_reads_doctors_iff` say which decoded responses each request's
reader returns on, over every value the decoder can give.
-/
import SiteAuditor.PriceScrape
import SiteAuditor.Python.Json
import SiteAuditor.Engine

namespace SiteAuditor

namespace Py.Json

/-- `int(x)`. A `str` is read as `int()` reads it (`pyInt`); a finite `float` is truncated
toward zero. -/
def toInt : Json → Except Exn Int
  | .int i => .ok i
  | .bool b => .ok (if b then 1 else 0)
  | .float (.finite x) => .ok (x.num.tdiv x.den)
  | .float .nan => .error (.valueError "cannot convert float NaN to integer")
  | .float _ => .error (.error "OverflowError: cannot convert float infinity to integer")
  | .str s => pyInt s
  | v => .error (.error ("TypeError: int() argument must be a string, a bytes-like object or a real number, not \x27" ++
      v.typeName ++ "\x27"))

end Py.Json

namespace PriceScrape

open Py

set_option autoImplicit false

/-! ## `get_doctors` -/

/-- A doctor `get_doctors` returns: `{"DoctorId": int(row[0]), "DoctorName": row[1],
"DoctorTitle": row[2] if len(row) > 2 else None}`. -/
structure Doctor where
  doctorId : Int
  doctorName : Json
  doctorTitle : Json
  deriving Repr

/-- One iteration of `get_doctors`' loop: `continue` (`none`) for a falsy row or one
shorter than two, else the doctor. -/
def doctorOfRow (row : Json) : Except Exn (Option Doctor) := do
  if !row.truthy then return none
  let n ← row.len
  if n < 2 then return none
  let doctorId ← (← row.index 0).toInt
  let doctorName ← row.index 1
  let doctorTitle ← if n > 2 then row.index 2 else pure .null
  return some { doctorId, doctorName, doctorTitle }

/-- `get_doctors()`, from the response of the doctor list request. -/
def getDoctors (response : Except Exn Json) : Except Exn (List Doctor) := do
  let js ← response
  let rows ← (← js.get "data" (.arr [])).iter
  let doctors ← rows.mapM doctorOfRow
  return doctors.reduceOption

/-! ## `get_doctor_services` and `get_lab_services` -/

/-- `to_float_price(x)`: `float(x)`, or `None` when it raises (a bare `except`). -/
def toFloatPrice (x : Json) : Option PyFloat :=
  match x.toFloat with
  | .ok f => some f
  | .error _ => none

/-- `entry.get("Services", []) or []`, for an entry with items `fields`. -/
def servicesOf (fields : List (String × Json)) : Json :=
  ((fields.lookup "Services").getD (.arr [])).orElse (.arr [])

/-- One iteration of the outer loop `get_doctor_services` and `get_lab_services` share:
the entry's fields, read by `fields`, then, for each service of
`entry.get("Services", []) or []`, the row `row` builds. -/
def entryRows {E ρ : Type} (fields : Json → Except Exn E) (row : E → Json → Except Exn ρ)
    (entry : Json) : Except Exn (List ρ) := do
  let f ← fields entry
  let services ← ((← entry.get "Services" (.arr [])).orElse (.arr [])).iter
  services.mapM (row f)

/-- The loops `get_doctor_services` and `get_lab_services` share, over the entries of
`data`. -/
def serviceRows {E ρ : Type} (fields : Json → Except Exn E) (row : E → Json → Except Exn ρ)
    (data : Json) : Except Exn (List ρ) := do
  let entries ← data.iter
  let rows ← entries.mapM (entryRows fields row)
  return rows.flatten

/-- A row of `get_doctor_services`. -/
structure DoctorService where
  medicalUnitName : Json
  medicalUnitId : Json
  specialtyName : Json
  specialtyId : Json
  serviceId : Json
  serviceName : Json
  price : Option PyFloat
  deriving Repr

/-- The fields `get_doctor_services` reads from an entry of `data`: `MedicalUnitId`,
`MedicalUnitName`, `SpecialtyName`, `SpecialtyId`. -/
structure UnitEntry where
  unitId : Json
  unitName : Json
  specName : Json
  specId : Json

def unitEntry (entry : Json) : Except Exn UnitEntry := do
  let unitId ← entry.get "MedicalUnitId" .null
  let unitName ← entry.get "MedicalUnitName" .null
  let specName ← entry.get "SpecialtyName" .null
  let specId ← entry.get "SpecialtyId" .null
  return { unitId, unitName, specName, specId }

def doctorService (u : UnitEntry) (s : Json) : Except Exn DoctorService := do
  let serviceId ← s.get "ServiceId" .null
  let serviceName ← s.get "ServiceName" .null
  let price ← s.get "Price" .null
  return { medicalUnitName := u.unitName, medicalUnitId := u.unitId, specialtyName := u.specName,
           specialtyId := u.specId, serviceId, serviceName, price := toFloatPrice price }

/-- `get_doctor_services(doctor_id)`, from the response of the details request. -/
def getDoctorServices (response : Except Exn Json) : Except Exn (List DoctorService) := do
  let js ← response
  if !(← js.get "isValid" (.bool false)).truthy then return []
  serviceRows unitEntry doctorService (← js.get "data" (.arr []))

/-- A row of `get_lab_services`. -/
structure LabService where
  laboratoryId : Json
  laboratoryName : Json
  serviceGroup : Json
  serviceId : Json
  serviceName : Json
  price : Option PyFloat
  deriving Repr

/-- The fields `get_lab_services` reads from a laboratory: `LaboratoryId`,
`LaboratoryName`. -/
def labEntry (lab : Json) : Except Exn (Json × Json) := do
  let labId ← lab.get "LaboratoryId" .null
  let labName ← lab.get "LaboratoryName" .null
  return (labId, labName)

def labService (lab : Json × Json) (s : Json) : Except Exn LabService := do
  let serviceGroup ← s.get "ServiceGroup" .null
  let serviceId ← s.get "ServiceId" .null
  let serviceName ← s.get "ServiceName" .null
  let price ← s.get "Price" .null
  return { laboratoryId := lab.1, laboratoryName := lab.2, serviceGroup, serviceId, serviceName,
           price := toFloatPrice price }

/-- `get_lab_services()`, from the response of the lab request. -/
def getLabServices (response : Except Exn Json) : Except Exn (List LabService) := do
  let js ← response
  serviceRows labEntry labService (← js.get "data" (.arr []))

/-! ## `main` -/

/-- A row of `all_rows`. -/
structure AllRow where
  medic : Json
  medicId : Int
  interventie : Json
  pret : Option PyFloat
  unitate : Json
  specialitate : Json
  serviceId : Json
  deriving Repr

/-- The row `main` appends for service `s` of doctor `d`. -/
def allRow (d : Doctor) (s : DoctorService) : AllRow :=
  ⟨d.doctorName, d.doctorId, s.serviceName, s.price, s.medicalUnitName, s.specialtyName, s.serviceId⟩

/-- One iteration of `main`'s loop over the doctors: the doctor's rows are appended, or
none when `get_doctor_services` raises (`continue`). -/
def collectStep (details : Int → Except Exn Json) (allRows : List AllRow) (d : Doctor) : List AllRow :=
  match getDoctorServices (details d.doctorId) with
  | .ok services => allRows ++ services.map (allRow d)
  | .error _ => allRows

/-- `all_rows` after `main`'s loop over the doctors. -/
def collectDoctorRows (details : Int → Except Exn Json) (doctors : List Doctor) : List AllRow :=
  doctors.foldl (collectStep details) []

/-- What `main` has fetched when it builds its data frames: `all_rows`, and `lab_rows`
(none when `get_lab_services` raised). When `get_doctors` raises, `main` stops. -/
def fetchRows (doctorsResponse : Except Exn Json) (details : Int → Except Exn Json)
    (labResponse : Except Exn Json) : Except Exn (List AllRow × List LabService) := do
  let doctors ← getDoctors doctorsResponse
  let labRows := match getLabServices labResponse with
    | .ok rows => rows
    | .error _ => []
  return (collectDoctorRows details doctors, labRows)

/-! ## Which responses are read without raising -/

theorem get_ok_iff {d : Json} {key : String} {default : Json} :
    (∃ v, d.get key default = .ok v) ↔ ∃ fs, d = .obj fs := by
  cases d <;> simp [Json.get]

section ServiceRows

variable {E ρ : Type} {fields : Json → Except Exn E} {row : E → Json → Except Exn ρ}

/-- An entry is read without raising exactly when it is a dict whose `Services`, after
`or []`, iterates over dicts: when `fields` and `row` read exactly dicts. -/
theorem entryRows_ok_iff (hfields : ∀ e, (∃ f, fields e = .ok f) ↔ ∃ fs, e = .obj fs)
    (hrow : ∀ f s, (∃ r, row f s = .ok r) ↔ ∃ fs, s = .obj fs) (entry : Json) :
    (∃ rs, entryRows fields row entry = .ok rs) ↔
      ∃ fs, entry = .obj fs ∧ (servicesOf fs).DictsWith fun _ => True := by
  constructor
  · rintro ⟨rs, h⟩
    obtain ⟨f, hf, h⟩ := bind_eq_ok.mp h
    obtain ⟨fs, rfl⟩ := (hfields entry).mp ⟨f, hf⟩
    obtain ⟨v, hv, h⟩ := bind_eq_ok.mp h
    cases hv
    obtain ⟨services, hs, h⟩ := bind_eq_ok.mp h
    refine ⟨fs, rfl, (Json.iter_dicts_iff _ _).mp ⟨services, hs, fun s hs' => ?_⟩⟩
    obtain ⟨fs', rfl⟩ := (hrow f s).mp (mapM_ok_of_mem h s hs')
    exact ⟨fs', rfl, trivial⟩
  · rintro ⟨fs, rfl, hserv⟩
    obtain ⟨services, hs, hdicts⟩ := (Json.iter_dicts_iff _ _).mpr hserv
    obtain ⟨f, hf⟩ := (hfields _).mpr ⟨fs, rfl⟩
    obtain ⟨rs, hrs⟩ := mapM_ok_iff.mpr fun s hs' =>
      (hrow f s).mpr (let ⟨fs', h, _⟩ := hdicts s hs'; ⟨fs', h⟩)
    exact ⟨rs, bind_eq_ok.mpr ⟨f, hf, bind_eq_ok.mpr ⟨_, rfl, bind_eq_ok.mpr ⟨services, hs, hrs⟩⟩⟩⟩

/-- `data` is read without raising exactly when it iterates over dicts, each of whose
`Services` iterates over dicts. -/
theorem serviceRows_ok_iff (hfields : ∀ e, (∃ f, fields e = .ok f) ↔ ∃ fs, e = .obj fs)
    (hrow : ∀ f s, (∃ r, row f s = .ok r) ↔ ∃ fs, s = .obj fs) (data : Json) :
    (∃ rows, serviceRows fields row data = .ok rows) ↔
      data.DictsWith fun fs => (servicesOf fs).DictsWith fun _ => True := by
  rw [← Json.iter_dicts_iff]
  constructor
  · rintro ⟨rows, h⟩
    obtain ⟨entries, he, h⟩ := bind_eq_ok.mp h
    obtain ⟨rss, hrss, -⟩ := bind_eq_ok.mp h
    exact ⟨entries, he, fun e he' => (entryRows_ok_iff hfields hrow e).mp (mapM_ok_of_mem hrss e he')⟩
  · rintro ⟨entries, he, hall⟩
    obtain ⟨rss, hrss⟩ := mapM_ok_iff.mpr fun e he' => (entryRows_ok_iff hfields hrow e).mpr (hall e he')
    exact ⟨rss.flatten, bind_eq_ok.mpr ⟨entries, he, bind_eq_ok.mpr ⟨rss, hrss, rfl⟩⟩⟩

end ServiceRows

theorem unitEntry_ok_iff (e : Json) : (∃ u, unitEntry e = .ok u) ↔ ∃ fs, e = .obj fs := by
  cases e <;> simp [unitEntry, Json.get, bind, Except.bind, pure, Except.pure]

theorem doctorService_ok_iff (u : UnitEntry) (s : Json) :
    (∃ r, doctorService u s = .ok r) ↔ ∃ fs, s = .obj fs := by
  cases s <;> simp [doctorService, Json.get, bind, Except.bind, pure, Except.pure]

theorem labEntry_ok_iff (e : Json) : (∃ l, labEntry e = .ok l) ↔ ∃ fs, e = .obj fs := by
  cases e <;> simp [labEntry, Json.get, bind, Except.bind, pure, Except.pure]

theorem labService_ok_iff (l : Json × Json) (s : Json) :
    (∃ r, labService l s = .ok r) ↔ ∃ fs, s = .obj fs := by
  cases s <;> simp [labService, Json.get, bind, Except.bind, pure, Except.pure]

/-- Which entries of `data` a details or lab response may hold: an iterable of dicts whose
`Services`, after `or []`, is an iterable of dicts. -/
def ServicesShape (data : Json) : Prop :=
  data.DictsWith fun fs => (servicesOf fs).DictsWith fun _ => True

/-- Which decoded responses `get_doctor_services` and `get_lab_services` return on rather
than raise (the exceptions `main` catches): a dict whose `data` has `ServicesShape`, except
that `get_doctor_services` reads `data` only when `isValid` is truthy. -/
theorem services_read_iff (js : Json) :
    ((∃ rows, getDoctorServices (.ok js) = .ok rows) ↔
      ∃ fs, js = .obj fs ∧ (((fs.lookup "isValid").getD (.bool false)).truthy →
        ServicesShape ((fs.lookup "data").getD (.arr [])))) ∧
    ((∃ rows, getLabServices (.ok js) = .ok rows) ↔
      ∃ fs, js = .obj fs ∧ ServicesShape ((fs.lookup "data").getD (.arr []))) := by
  have hdoc := serviceRows_ok_iff unitEntry_ok_iff doctorService_ok_iff
  have hlab := serviceRows_ok_iff labEntry_ok_iff labService_ok_iff
  cases js with
  | obj fs =>
    constructor
    · by_cases hv : ((fs.lookup "isValid").getD (.bool false)).truthy
      · simpa [getDoctorServices, hv, bind, Except.bind] using hdoc _
      · simp [getDoctorServices, hv, bind, Except.bind, pure, Except.pure]
    · simpa [getLabServices, bind, Except.bind] using hlab _
  | _ => simp [getDoctorServices, getLabServices, Json.get, bind, Except.bind]

/-! ## `main` -/

/-- The rows of the doctor list `get_doctors` reads without raising: a falsy row; a list, a
`str` or a dict shorter than two; a longer list whose first item `int()` reads; a longer
`str` whose first character is a decimal digit. `row[0]` of a longer dict raises `KeyError`,
and `len` of a truthy number raises `TypeError`. -/
def RowReads : Json → Prop
  | .arr (x :: _ :: _) => ∃ i, x.toInt = .ok i
  | .arr _ => True
  | .str ⟨c :: _ :: _⟩ => (unicodeToDecimal c).isSome
  | .str _ => True
  | .obj (_ :: _ :: _) => False
  | .obj _ => True
  | v => v.truthy = false

/-- One row of `get_doctors`' loop is read without raising exactly when it `RowReads`. -/
theorem doctorOfRow_ok_iff (row : Json) : (∃ d, doctorOfRow row = .ok d) ↔ RowReads row := by
  have hlong : ∀ n : Nat, ¬n + 1 + 1 < 2 := by omega
  cases row with
  | str s =>
    obtain ⟨_ | ⟨c, _ | ⟨d, t⟩⟩⟩ := s
    · exact iff_of_true ⟨none, rfl⟩ trivial
    · simp [doctorOfRow, RowReads, Json.truthy, Json.len, bind, Except.bind, pure, Except.pure]
    · have hc : (∃ i, pyInt (String.singleton c) = .ok i) ↔ (unicodeToDecimal c).isSome := pyInt_singleton c
      have hne : (String.mk (c :: d :: t)).isEmpty = false := by
        cases h : (String.mk (c :: d :: t)).isEmpty
        · rfl
        · exact absurd (congrArg String.data ((String.isEmpty_iff _).mp h)) (List.cons_ne_nil _ _)
      simp only [doctorOfRow, RowReads, Json.truthy, Json.len, Json.index, Json.toInt, hne, bind, Except.bind,
        pure, Except.pure, Bool.not_false, if_false, String.length, List.length_cons,
        List.get?_cons_zero, List.get?_cons_succ, hlong]
      rw [← hc]
      cases pyInt (String.singleton c) with
      | error e => simp
      | ok i => cases t <;> simp [hlong]
  | arr elems =>
    rcases elems with _ | ⟨x, _ | ⟨y, rest⟩⟩
    · simp [doctorOfRow, RowReads, Json.truthy, pure, Except.pure]
    · simp [doctorOfRow, RowReads, Json.truthy, Json.len, bind, Except.bind, pure, Except.pure]
    · simp only [doctorOfRow, RowReads, Json.truthy, Json.len, Json.index, bind, Except.bind, pure, Except.pure,
        List.isEmpty_cons, Bool.not_false, if_false, List.length_cons, List.get?_cons_zero, List.get?_cons_succ, hlong]
      cases x.toInt with
      | error e => simp
      | ok i => cases rest <;> simp [hlong]
  | obj fields =>
    rcases fields with _ | ⟨p, _ | ⟨q, rest⟩⟩ <;>
      simp [doctorOfRow, RowReads, Json.truthy, Json.len, Json.index, bind, Except.bind, pure, Except.pure, hlong]
  | _ =>
    -- a scalar is falsy, or `len` raises on it
    simp [doctorOfRow, RowReads, Json.truthy, Json.len, bind, Except.bind, pure, Except.pure] <;> split <;> simp_all

/-- `get_doctors` returns exactly when the decoded doctor list is a dict whose `data` iterates
over rows that each `RowReads`. -/
theorem getDoctors_ok_iff (js : Json) :
    (∃ ds, getDoctors (.ok js) = .ok ds) ↔
      ∃ fs, js = .obj fs ∧ ∃ rows, ((fs.lookup "data").getD (.arr [])).iter = .ok rows ∧
        ∀ row ∈ rows, RowReads row := by
  constructor
  · rintro ⟨ds, h⟩
    obtain ⟨js', hjs, h⟩ := bind_eq_ok.mp h
    cases hjs
    obtain ⟨data, hdata, h⟩ := bind_eq_ok.mp h
    obtain ⟨fs, rfl⟩ := get_ok_iff.mp ⟨data, hdata⟩
    rw [Json.get_obj, Except.ok.injEq] at hdata
    subst hdata
    obtain ⟨rows, hrows, h⟩ := bind_eq_ok.mp h
    obtain ⟨doctors, hdoc, -⟩ := bind_eq_ok.mp h
    exact ⟨fs, rfl, rows, hrows, fun row hr => (doctorOfRow_ok_iff row).mp (mapM_ok_of_mem hdoc row hr)⟩
  · rintro ⟨fs, rfl, rows, hrows, hall⟩
    obtain ⟨doctors, hdoc⟩ := mapM_ok_iff.mpr fun row hr => (doctorOfRow_ok_iff row).mpr (hall row hr)
    exact ⟨_, bind_eq_ok.mpr ⟨_, rfl, bind_eq_ok.mpr ⟨_, rfl, bind_eq_ok.mpr ⟨rows, hrows,
      bind_eq_ok.mpr ⟨doctors, hdoc, rfl⟩⟩⟩⟩⟩

/-- **Which doctor lists `main` gets past.** `main` calls `get_doctors` outside any `try`, so
it goes on to fetch the services and export exactly when the decoded doctor list is a dict
whose `data` iterates over rows that each `RowReads`, whatever the other responses; on any
other doctor list it stops before it fetches anything else. -/
theorem main_reads_doctors_iff (js : Json) (details : Int → Except Exn Json) (labResponse : Except Exn Json) :
    (∃ rows, fetchRows (.ok js) details labResponse = .ok rows) ↔
      ∃ fs, js = .obj fs ∧ ∃ rows, ((fs.lookup "data").getD (.arr [])).iter = .ok rows ∧
        ∀ row ∈ rows, RowReads row := by
  rw [← getDoctors_ok_iff]
  constructor
  · rintro ⟨rows, h⟩
    obtain ⟨ds, hds, -⟩ := bind_eq_ok.mp h
    exact ⟨ds, hds⟩
  · rintro ⟨ds, hds⟩
    exact ⟨_, bind_eq_ok.mpr ⟨ds, hds, rfl⟩⟩

end PriceScrape

end SiteAuditor
