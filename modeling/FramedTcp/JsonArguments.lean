import FramedTcp.NamedCalls

/-!
# Integer arguments

`get<int>`, `get<long>` and `get<std::vector<int>>` cast whatever number they find with
`static_cast`, and `get<int>` casts a boolean as well.  A cast keeps the value of an integer in the
range of the type, and no other value.
-/

namespace FramedTcp.Rpc

/-- A signed integer type. -/
structure IntegerType (α : Type) where
  /-- The value congruent to an integer. -/
  ofInt : ℤ → α
  /-- The integer. -/
  toInt : α → ℤ
  /-- Its least value. -/
  lower : ℤ
  /-- One more than its greatest value. -/
  upper : ℤ
  lower_le : ∀ value, lower ≤ toInt value
  lt_upper : ∀ value, toInt value < upper
  toInt_ofInt : ∀ value, lower ≤ value → value < upper → toInt (ofInt value) = value

/-- The type `int`. -/
def int : IntegerType Int32 where
  ofInt := Int32.ofInt
  toInt := Int32.toInt
  lower := -2 ^ 31
  upper := 2 ^ 31
  lower_le := Int32.le_toInt
  lt_upper := Int32.toInt_lt
  toInt_ofInt _ := Int32.toInt_ofInt_of_le

/-- The type `long`. -/
def long : IntegerType Int64 where
  ofInt := Int64.ofInt
  toInt := Int64.toInt
  lower := -2 ^ 63
  upper := 2 ^ 63
  lower_le := Int64.le_toInt
  lt_upper := Int64.toInt_lt
  toInt_ofInt _ := Int64.toInt_ofInt_of_le

/-- Rounding towards zero. -/
def truncate (value : ℚ) : ℤ := if 0 ≤ value then ⌊value⌋ else ⌈value⌉

variable {α : Type}

/-- `static_cast` from a floating-point number; outside the range the result is not specified. -/
def IntegerType.castFloat (type : IntegerType α) (unspecified : Double → α) (value : Double) : α :=
  match value with
  | .finite number =>
      if type.lower ≤ truncate number ∧ truncate number < type.upper then
        type.ofInt (truncate number)
      else
        unspecified value
  | _ => unspecified value

/-- `get_arithmetic_value`, the conversion to `long`. -/
def getArithmeticValue (type : IntegerType α) (unspecified : Double → α) (json : Json) :
    Except String α :=
  match json with
  | .numberUnsigned value => .ok (type.ofInt value.toNat)
  | .numberInteger value => .ok (type.ofInt value.toInt)
  | .numberFloat value => .ok (type.castFloat unspecified value)
  | _ =>
      .error ("[json.exception.type_error.302] type must be number, but is " ++ json.typeName)

/-- `from_json` for the other arithmetic types: the same switch, with a branch for booleans. -/
def fromJson (type : IntegerType α) (unspecified : Double → α) (json : Json) : Except String α :=
  match json with
  | .boolean value => .ok (type.ofInt value.toInt)
  | _ => getArithmeticValue type unspecified json

/-- `from_json_array_impl`: each element is converted. -/
def fromJsonArray (convert : Json → Except String α) : List Json → Except String (List α)
  | [] => .ok []
  | element :: elements => do
      let value ← convert element
      let values ← fromJsonArray convert elements
      .ok (value :: values)

/-- `from_json` for vectors. -/
def fromJsonVector (convert : Json → Except String α) (json : Json) : Except String (List α) :=
  match json with
  | .array elements => fromJsonArray convert elements
  | _ => .error ("[json.exception.type_error.302] type must be array, but is " ++ json.typeName)

/-- The vendored conversions to integers, and any conversions to the other types. -/
def nlohmann (unspecifiedInt : Double → Int32) (unspecifiedLong : Double → Int64)
    (library : Library) : Library :=
  { library with
    get := fun type json =>
      match type with
      | .int => fromJson int unspecifiedInt json
      | .long => getArithmeticValue long unspecifiedLong json
      | .vectorInt => fromJsonVector (fromJson int unspecifiedInt) json
      | type => library.get type json }

/-! ## Exact conversions -/

/-- The number that a JSON value stands for. -/
def Json.number? : Json → Option ℚ
  | .numberUnsigned value => some value.toNat
  | .numberInteger value => some value.toInt
  | .numberFloat (.finite value) => some value
  | _ => none

/-- The JSON value is an integer in the range of the type. -/
def IntegerType.Represents (type : IntegerType α) (json : Json) : Prop :=
  ∃ value : ℤ, json.number? = some (value : ℚ) ∧ type.lower ≤ value ∧ value < type.upper

/-- Is the JSON value a number? -/
def Json.isNumber : Json → Bool
  | .numberUnsigned _ | .numberInteger _ | .numberFloat _ => true
  | _ => false

/-- Is the JSON value a boolean? -/
def Json.isBoolean : Json → Bool
  | .boolean _ => true
  | _ => false

/-- What a parameter of an integer type, or of a vector of integers, receives is what the JSON value
says. -/
def Exact {Other : String → Type} : (type : TypeInfo) → Json → Value Other type → Prop
  | .int, json, value => json.number? = some (int.toInt value : ℚ)
  | .long, json, value => json.number? = some (long.toInt value : ℚ)
  | .vectorInt, json, values => ∃ elements, json = .array elements ∧
      List.Forall₂ (fun element value => element.number? = some (int.toInt value : ℚ))
        elements values
  | _, _, _ => True

/-- The JSON value has an exact counterpart in the type. -/
def Representable : TypeInfo → Json → Prop
  | .int, json => int.Represents json
  | .long, json => long.Represents json
  | .vectorInt, json => ∃ elements, json = .array elements ∧
      ∀ element ∈ elements, int.Represents element
  | _, _ => True

/-- The conversion to the type throws. -/
def Rejects (library : Library) : TypeInfo → Json → Prop
  | .int, json => json.isNumber = false ∧ json.isBoolean = false
  | .long, json => json.isNumber = false
  | .vectorInt, json => ∀ elements, json = .array elements →
      ∃ element ∈ elements, element.isNumber = false ∧ element.isBoolean = false
  | type, json => ¬ type.Convertible ∨ ∃ message, library.get type json = .error message

theorem truncate_intCast (value : ℤ) : truncate value = value := by
  unfold truncate
  split
  · exact Int.floor_intCast value
  · exact Int.ceil_intCast value

theorem IntegerType.castFloat_intCast (type : IntegerType α) (unspecified : Double → α)
    {integer : ℤ} (lower : type.lower ≤ integer) (upper : integer < type.upper) :
    type.castFloat unspecified (.finite integer) = type.ofInt integer := by
  rw [IntegerType.castFloat, truncate_intCast, if_pos ⟨lower, upper⟩]

variable {type : IntegerType α} {unspecified : Double → α} {json : Json} {value : α}

/-- An integer in the range is cast to its counterpart. -/
theorem cast_of_number (converted : getArithmeticValue type unspecified json = .ok value)
    {integer : ℤ} (number : json.number? = some (integer : ℚ)) (lower : type.lower ≤ integer)
    (upper : integer < type.upper) : value = type.ofInt integer := by
  cases json with
  | numberUnsigned unsigned =>
      obtain rfl := Except.ok.inj converted
      have same : (unsigned.toNat : ℤ) = integer := by
        exact_mod_cast Option.some.inj number
      rw [same]
  | numberInteger signed =>
      obtain rfl := Except.ok.inj converted
      have same : signed.toInt = integer := by
        exact_mod_cast Option.some.inj number
      rw [same]
  | numberFloat float =>
      obtain rfl := Except.ok.inj converted
      cases float with
      | finite value =>
          obtain rfl : value = integer := Option.some.inj number
          exact type.castFloat_intCast unspecified lower upper
      | infinite | nan => contradiction
  | _ => contradiction

/-- A conversion is exact on the integers in the range, and on nothing else. -/
theorem getArithmeticValue_exact_iff
    (converted : getArithmeticValue type unspecified json = .ok value) :
    json.number? = some (type.toInt value : ℚ) ↔ type.Represents json := by
  constructor
  · intro exactly
    exact ⟨type.toInt value, exactly, type.lower_le value, type.lt_upper value⟩
  · rintro ⟨integer, number, lower, upper⟩
    rw [cast_of_number converted number lower upper, type.toInt_ofInt integer lower upper, number]

theorem fromJson_of_not_boolean (not_boolean : json.isBoolean = false) :
    fromJson type unspecified json = getArithmeticValue type unspecified json := by
  cases json with
  | boolean => contradiction
  | _ => rfl

theorem fromJson_exact_iff (converted : fromJson type unspecified json = .ok value) :
    json.number? = some (type.toInt value : ℚ) ↔ type.Represents json := by
  cases json with
  | boolean flag => simp [Json.number?, IntegerType.Represents]
  | _ =>
      rw [fromJson_of_not_boolean rfl] at converted
      exact getArithmeticValue_exact_iff converted

theorem getArithmeticValue_error_iff :
    (∃ message, getArithmeticValue type unspecified json = .error message) ↔
      json.isNumber = false := by
  cases json <;> simp [getArithmeticValue, Json.isNumber]

theorem fromJson_error_iff :
    (∃ message, fromJson type unspecified json = .error message) ↔
      json.isNumber = false ∧ json.isBoolean = false := by
  cases json <;> simp [fromJson, getArithmeticValue, Json.isNumber, Json.isBoolean]

theorem fromJsonArray_ok_iff {convert : Json → Except String α} {elements : List Json}
    {values : List α} : fromJsonArray convert elements = .ok values ↔
      List.Forall₂ (fun element value => convert element = .ok value) elements values := by
  induction elements generalizing values with
  | nil => simp [fromJsonArray, eq_comm]
  | cons element elements induction =>
      rw [fromJsonArray, List.forall₂_cons_left_iff]
      cases convert element with
      | error message => simp [bind, Except.bind]
      | ok value =>
          cases rest : fromJsonArray convert elements with
          | error message => simp [bind, Except.bind, ← induction, rest]
          | ok later => simp [bind, Except.bind, ← induction, rest, eq_comm]

theorem fromJsonArray_error_iff {convert : Json → Except String α} {elements : List Json} :
    (∃ message, fromJsonArray convert elements = .error message) ↔
      ∃ element ∈ elements, ∃ message, convert element = .error message := by
  induction elements with
  | nil => simp [fromJsonArray]
  | cons element elements induction =>
      rw [fromJsonArray, List.exists_mem_cons_iff, ← induction]
      cases convert element with
      | error message => simp [bind, Except.bind]
      | ok value =>
          cases fromJsonArray convert elements with
          | error message => simp [bind, Except.bind]
          | ok later => simp [bind, Except.bind]

theorem forall₂_exact_iff {unspecified : Double → Int32} {elements : List Json}
    {values : List Int32} (converted : List.Forall₂
      (fun element value => fromJson int unspecified element = .ok value) elements values) :
    List.Forall₂ (fun element value => element.number? = some (int.toInt value : ℚ))
        elements values ↔
      ∀ element ∈ elements, int.Represents element := by
  induction converted with
  | nil => simp
  | cons first rest induction =>
      rw [List.forall₂_cons, List.forall_mem_cons]
      exact and_congr (fromJson_exact_iff first) induction

/-- A vector is converted exactly if all its elements are. -/
theorem fromJsonVector_exact_iff {unspecified : Double → Int32} {values : List Int32}
    (converted : fromJsonVector (fromJson int unspecified) json = .ok values) :
    (∃ elements, json = .array elements ∧
        List.Forall₂ (fun element value => element.number? = some (int.toInt value : ℚ))
          elements values) ↔
      ∃ elements, json = .array elements ∧ ∀ element ∈ elements, int.Represents element := by
  cases json with
  | array elements =>
      simp only [Json.array.injEq, exists_eq_left']
      exact forall₂_exact_iff (fromJsonArray_ok_iff.mp converted)
  | _ => contradiction

theorem fromJsonVector_error_iff {convert : Json → Except String α} :
    (∃ message, fromJsonVector convert json = .error message) ↔
      ∀ elements, json = .array elements →
        ∃ element ∈ elements, ∃ message, convert element = .error message := by
  cases json with
  | array elements => simp [fromJsonVector, fromJsonArray_error_iff]
  | _ => simp [fromJsonVector]

/-! ## Conversions of arguments -/

variable {unspecifiedInt : Double → Int32} {unspecifiedLong : Double → Int64} {library : Library}

theorem exact_iff_representable {type : TypeInfo} {value : Value library.Other type}
    (converted : (nlohmann unspecifiedInt unspecifiedLong library).get type json = .ok value) :
    Exact type json value ↔ Representable type json := by
  cases type with
  | int => exact fromJson_exact_iff converted
  | long => exact getArithmeticValue_exact_iff converted
  | vectorInt => exact fromJsonVector_exact_iff converted
  | _ => exact Iff.rfl

theorem rejects_iff (unspecifiedInt : Double → Int32) (unspecifiedLong : Double → Int64)
    {type : TypeInfo} : Rejects library type json ↔
    ¬ type.Convertible ∨
      ∃ message, (nlohmann unspecifiedInt unspecifiedLong library).get type json =
        .error message := by
  cases type with
  | int =>
      have convertible : TypeInfo.int.Convertible := trivial
      rw [or_iff_right (not_not_intro convertible)]
      exact fromJson_error_iff.symm
  | long =>
      have convertible : TypeInfo.long.Convertible := trivial
      rw [or_iff_right (not_not_intro convertible)]
      exact getArithmeticValue_error_iff.symm
  | vectorInt =>
      have convertible : TypeInfo.vectorInt.Convertible := trivial
      rw [or_iff_right (not_not_intro convertible)]
      refine Iff.trans ?_ fromJsonVector_error_iff.symm
      simp only [fromJson_error_iff, Rejects]
  | _ => exact Iff.rfl

/-! ## Calls -/

/-- The call passes the function exactly what the JSON value says, or it throws without invoking the
function: a type mismatch, unless an argument is missing. -/
def Unaltered (library : Library) (history : List (Registration library.Other)) (name : String)
    (function : StdFunction library.Other) (paramNames : List String) (ret : TypeInfo)
    (namedArgs : Json) (ready : Int64 → Bool) : Prop :=
  let call := library.callFunctionNamed (.after history) ret name namedArgs ready
  (∃ arguments, call.invocations = [⟨function, arguments⟩] ∧
      EachArgument (fun paramName type value => ∀ json,
        namedArgs.find? paramName = some json → Exact type json value)
        paramNames function.paramTypes arguments) ∨
    call.invocations = [] ∧ ∃ errorType message,
      call.outcome = .error (.rpcException errorType message) ∧
      (errorType = .typeMismatch ∨
        ∃ paramName ∈ paramNames, namedArgs.contains paramName = false)

section

variable {namedArgs : Json} {paramNames : List String} {types : List TypeInfo}

/-- Bound arguments are exact if and only if the members they are bound to are representable. -/
theorem eachArgument_exact_iff {arguments : Arguments library.Other types}
    (all : BindsAll (nlohmann unspecifiedInt unspecifiedLong library) namedArgs paramNames types
      arguments) :
    EachArgument (fun paramName type value => ∀ json,
        namedArgs.find? paramName = some json → Exact type json value)
        paramNames types arguments ↔
      ∀ param ∈ paramNames.zip types, ∀ json, namedArgs.find? param.1 = some json →
        Representable param.2 json := by
  induction arguments generalizing paramNames with
  | nil => cases paramNames with
    | nil => simp [EachArgument]
    | cons => exact all.elim
  | @cons type types value values induction => cases paramNames with
    | nil => exact all.elim
    | cons paramName paramNames =>
        obtain ⟨⟨json, found, convertible, converted⟩, rest⟩ := all
        rw [List.zip_cons_cons, List.forall_mem_cons, EachArgument]
        refine and_congr ?_ (induction rest)
        simp only [found, Option.some.injEq, forall_eq']
        exact exact_iff_representable converted

theorem not_rejects_of_bindsAll {arguments : Arguments library.Other types}
    (all : BindsAll (nlohmann unspecifiedInt unspecifiedLong library) namedArgs paramNames types
      arguments) {param : String × TypeInfo} (member : param ∈ paramNames.zip types) :
    ∃ json, namedArgs.find? param.1 = some json ∧ ¬ Rejects library param.2 json := by
  induction arguments generalizing paramNames with
  | nil => simp at member
  | @cons type types value values induction => cases paramNames with
    | nil => exact all.elim
    | cons paramName paramNames =>
        obtain ⟨⟨json, found, convertible, converted⟩, rest⟩ := all
        rw [List.zip_cons_cons] at member
        rcases List.mem_cons.mp member with rfl | later
        · refine ⟨json, found, fun rejects => ?_⟩
          rcases (rejects_iff unspecifiedInt unspecifiedLong).mp rejects with
            unsupported | ⟨message, thrown⟩
          · exact unsupported convertible
          · rw [converted] at thrown
            contradiction
        · exact induction rest later

/-- The first parameter that cannot be bound is missing or rejected. -/
theorem exists_rejected_of_firstFails {thrown : Thrown}
    (first : FirstFails (nlohmann unspecifiedInt unspecifiedLong library) namedArgs paramNames
      types thrown) :
    (∃ param ∈ paramNames.zip types, ∀ json, namedArgs.find? param.1 = some json →
        Rejects library param.2 json) ∧
      ∃ errorType message, thrown = .rpcException errorType message ∧
        (errorType = .typeMismatch ∨
          ∃ paramName ∈ paramNames, namedArgs.contains paramName = false) := by
  induction first with
  | @here paramName paramNames type types thrown fails =>
      refine ⟨⟨(paramName, type), by simp, fun json found => ?_⟩, ?_⟩
      · cases fails with
        | missing absent => simp [absent] at found
        | mismatched also_found convertible thrown =>
            obtain rfl := Option.some.inj (found.symm.trans also_found)
            exact (rejects_iff unspecifiedInt unspecifiedLong).mpr (Or.inr ⟨_, thrown⟩)
        | unsupported also_found unsupported =>
            exact (rejects_iff unspecifiedInt unspecifiedLong).mpr (Or.inl unsupported)
      · cases fails with
        | missing absent =>
            refine ⟨_, _, rfl, Or.inr ⟨paramName, List.mem_cons_self, ?_⟩⟩
            simp [Json.contains, absent]
        | mismatched => exact ⟨_, _, rfl, Or.inl rfl⟩
        | unsupported => exact ⟨_, _, rfl, Or.inl rfl⟩
  | later binds later induction =>
      obtain ⟨⟨param, member, rejected⟩, errorType, message, thrown_eq, cause⟩ := induction
      refine ⟨⟨param, ?_, rejected⟩, errorType, message, thrown_eq, ?_⟩
      · exact List.mem_cons_of_mem _ member
      · refine cause.imp_right ?_
        rintro ⟨paramName, name_member, missing⟩
        exact ⟨paramName, List.mem_cons_of_mem _ name_member, missing⟩

end

/-- A call of a registered function leaves integer arguments unaltered exactly if the return types
do not match, or some argument is missing or rejected by its conversion, or every argument for an
integer or a vector of integers is an integer, or a list of integers, in the range of the type. -/
theorem unaltered_iff (unspecifiedInt : Double → Int32) (unspecifiedLong : Double → Int64)
    (library : Library) (history : List (Registration library.Other)) (name : String)
    (function : StdFunction library.Other) (paramNames : List String)
    (registered : Registered history name function paramNames) (ret : TypeInfo)
    (namedArgs : Json) (ready : Int64 → Bool) :
    Unaltered (nlohmann unspecifiedInt unspecifiedLong library) history name function paramNames
        ret namedArgs ready ↔
      function.returnType ≠ ret ∨
        (∃ param ∈ paramNames.zip function.paramTypes, ∀ json,
          namedArgs.find? param.1 = some json → Rejects library param.2 json) ∨
        ∀ param ∈ paramNames.zip function.paramTypes, ∀ json,
          namedArgs.find? param.1 = some json → Representable param.2 json := by
  obtain ⟨info, found, stores⟩ := RpcProvider.exists_stores_of_registered registered
  by_cases same : function.returnType = ret
  · have length_eq := info.length_eq
    rw [stores.paramNames_eq, stores.paramTypes_eq] at length_eq
    rcases bindsAll_or_firstFails (nlohmann unspecifiedInt unspecifiedLong library) namedArgs
      length_eq with ⟨arguments, all⟩ | ⟨thrown, first⟩
    · have invoked : ((nlohmann unspecifiedInt unspecifiedLong library).callFunctionNamed
          (.after history) ret name namedArgs ready).invocations = [⟨function, arguments⟩] :=
        invocations_of_bindsAll (nlohmann unspecifiedInt unspecifiedLong library) registered same
          all
      have none_rejected : ¬ ∃ param ∈ paramNames.zip function.paramTypes, ∀ json,
          namedArgs.find? param.1 = some json → Rejects library param.2 json := by
        rintro ⟨param, member, rejected⟩
        obtain ⟨json, member_found, accepted⟩ := not_rejects_of_bindsAll all member
        exact accepted (rejected json member_found)
      rw [or_iff_right (not_not_intro same), or_iff_right none_rejected,
        ← eachArgument_exact_iff all]
      constructor
      · rintro (⟨values, also_invoked, exact_values⟩ | ⟨nothing, -⟩)
        · obtain ⟨-, values_eq⟩ := Sigma.mk.inj
            (List.singleton_injective (invoked.symm.trans also_invoked))
          rw [eq_of_heq values_eq]
          exact exact_values
        · rw [invoked] at nothing
          contradiction
      · exact fun exact_arguments => Or.inl ⟨arguments, invoked, exact_arguments⟩
    · obtain ⟨rejected, errorType, message, rfl, cause⟩ := exists_rejected_of_firstFails first
      have call_eq : (nlohmann unspecifiedInt unspecifiedLong library).callFunctionNamed
          (.after history) ret name namedArgs ready =
            { invocations := []
              outcome := .error (.rpcException errorType message) } :=
        call_of_firstFails (nlohmann unspecifiedInt unspecifiedLong library) registered same first
      refine iff_of_true (Or.inr ?_) (Or.inr (Or.inl rejected))
      rw [call_eq]
      exact ⟨rfl, errorType, message, rfl, cause⟩
  · have different : info.returnType ≠ ret := by rwa [stores.returnType_eq]
    have call_eq : (nlohmann unspecifiedInt unspecifiedLong library).callFunctionNamed
        (.after history) ret name namedArgs ready =
          { invocations := []
            outcome := .error (.rpcException .typeMismatch
              ("Return type mismatch. Expected " ++ library.demangle info.returnType ++
                " but got " ++ library.demangle ret)) } :=
      call_of_mismatch found different
    refine iff_of_true (Or.inr ?_) (Or.inl same)
    rw [call_eq]
    exact ⟨rfl, .typeMismatch, _, rfl, Or.inl rfl⟩

/-! ## A function that returns its argument -/

/-- `int echo(int value)`. -/
def echo : StdFunction fun _ => Unit where
  returnType := .int
  paramTypes := [.int]
  body
    | .cons value .nil => .ok value

/-- The history that registers `echo`. -/
def echoHistory : List (Registration fun _ => Unit) :=
  [.registerFunction "echo" echo ["value"] 5000]

/-- Conversions of which only those to integers succeed. -/
def integersOnly : Library where
  Other _ := Unit
  demangle _ := "type"
  get _ _ := .error "unsupported"

/-- What `echo` returns for a JSON argument. -/
def callEcho (json : Json) : Library.Call (fun _ => Unit) .int :=
  (nlohmann (fun _ => 0) (fun _ => 0) integersOnly).callFunctionNamed (.after echoHistory) .int
    "echo" (.object [("value", json)]) fun _ => true

theorem echo_registered : Registered echoHistory "echo" echo ["value"] :=
  ⟨[], _, [], rfl, ⟨rfl, 5000, rfl⟩, by simp⟩

/-- A small integer is passed unaltered. -/
theorem unaltered_iff_small :
    Unaltered (nlohmann (fun _ => 0) (fun _ => 0) integersOnly) echoHistory "echo" echo ["value"]
        .int (.object [("value", .numberInteger (-7))]) (fun _ => true) := by
  apply (unaltered_iff _ _ integersOnly echoHistory "echo" echo ["value"] echo_registered .int _
    _).mpr
  refine Or.inr (Or.inr ?_)
  intro param member json found
  obtain rfl := List.mem_singleton.mp member
  obtain rfl : Json.numberInteger (-7) = json := Option.some.inj found
  exact ⟨-7, rfl, by decide, by decide⟩

theorem not_unaltered_of_different {json : Json} {value : Int32}
    (invoked : (callEcho json).invocations = [⟨echo, .cons value .nil⟩])
    (different : json.number? ≠ some (int.toInt value : ℚ)) :
    ¬ Unaltered (nlohmann (fun _ => 0) (fun _ => 0) integersOnly) echoHistory "echo" echo
      ["value"] .int (.object [("value", json)]) fun _ => true := by
  rintro (⟨arguments, also_invoked, exact_arguments⟩ | ⟨nothing, -⟩)
  · obtain ⟨-, arguments_eq⟩ := Sigma.mk.inj
      (List.singleton_injective (invoked.symm.trans also_invoked))
    obtain rfl := eq_of_heq arguments_eq
    exact different (exact_arguments.1 json rfl)
  · exact absurd (invoked.symm.trans nothing) (by simp)

theorem castFloat_fraction : int.castFloat (fun _ => 0) (.finite (7 / 2)) = 3 := by
  have truncated : truncate (7 / 2) = 3 := by norm_num [truncate]
  rw [IntegerType.castFloat, truncated]
  rfl

/-- A boolean, a number outside the range and a fraction are turned into other integers. -/
theorem integers_altered :
    (callEcho (.boolean true)).outcome = .ok (1 : Int32) ∧
      (callEcho (.numberUnsigned 4294967296)).outcome = .ok (0 : Int32) ∧
      (callEcho (.numberFloat (.finite (7 / 2)))).outcome = .ok (3 : Int32) ∧
      ∀ json ∈ [.boolean true, .numberUnsigned 4294967296, .numberFloat (.finite (7 / 2))],
        ¬ Unaltered (nlohmann (fun _ => 0) (fun _ => 0) integersOnly) echoHistory "echo" echo
          ["value"] .int (.object [("value", json)]) fun _ => true := by
  refine ⟨rfl, rfl, congrArg Except.ok castFloat_fraction, ?_⟩
  intro json member
  simp only [List.mem_cons, List.not_mem_nil, or_false] at member
  rcases member with rfl | rfl | rfl
  · exact not_unaltered_of_different rfl (by simp [Json.number?])
  · exact not_unaltered_of_different rfl (by decide)
  · have different : (Json.numberFloat (.finite (7 / 2))).number? ≠
        some (int.toInt (int.castFloat (fun _ => 0) (.finite (7 / 2))) : ℚ) := by
      rw [castFloat_fraction]
      have three : int.toInt 3 = 3 := rfl
      norm_num [Json.number?, three]
    exact not_unaltered_of_different rfl different

end FramedTcp.Rpc
