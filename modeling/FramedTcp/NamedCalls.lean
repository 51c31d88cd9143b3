import FramedTcp.RpcProvider

/-!
# Calls with named arguments

A call binds the parameters of the registered function in their order, each to the member of the
JSON value under its name.  The body is invoked exactly if all parameters can be bound; otherwise
the first that cannot be decides which exception is thrown.
-/

namespace FramedTcp.Rpc

/-! ## Binding parameters -/

/-- The types that a JSON value can be converted to. -/
def TypeInfo.Convertible : TypeInfo → Prop
  | .void | .other _ => False
  | _ => True

/-- The argument under the name converts to the value. -/
def Binds (library : Library) (namedArgs : Json) (paramName : String) (type : TypeInfo)
    (value : Value library.Other type) : Prop :=
  ∃ json, namedArgs.find? paramName = some json ∧ type.Convertible ∧
    library.get type json = .ok value

/-- The exception for a parameter that cannot be bound. -/
inductive Fails (library : Library) (namedArgs : Json) (paramName : String) (type : TypeInfo) :
    Thrown → Prop
  | missing (absent : namedArgs.find? paramName = none) :
      Fails library namedArgs paramName type
        (.rpcException .argumentError ("Missing argument: " ++ paramName))
  | mismatched {json message} (found : namedArgs.find? paramName = some json)
      (convertible : type.Convertible) (thrown : library.get type json = .error message) :
      Fails library namedArgs paramName type
        (.rpcException .typeMismatch
          ("JSON conversion error for parameter '" ++ paramName ++ "': " ++ message))
  | unsupported {json} (found : namedArgs.find? paramName = some json)
      (unsupported : ¬ type.Convertible) :
      Fails library namedArgs paramName type
        (.rpcException .typeMismatch ("Unsupported type: " ++ library.demangle type))

/-- A property of each parameter and its argument. -/
def EachArgument {Other : String → Type}
    (property : (paramName : String) → (type : TypeInfo) → Value Other type → Prop) :
    (paramNames : List String) → (types : List TypeInfo) → Arguments Other types → Prop
  | [], [], _ => True
  | paramName :: paramNames, type :: types, .cons value values =>
      property paramName type value ∧ EachArgument property paramNames types values
  | _, _, _ => False

/-- All parameters can be bound to the arguments. -/
def BindsAll (library : Library) (namedArgs : Json) (paramNames : List String)
    (types : List TypeInfo) (arguments : Arguments library.Other types) : Prop :=
  EachArgument (Binds library namedArgs) paramNames types arguments

/-- The exception for the first parameter that cannot be bound. -/
inductive FirstFails (library : Library) (namedArgs : Json) :
    List String → List TypeInfo → Thrown → Prop
  | here {paramName paramNames type types thrown}
      (fails : Fails library namedArgs paramName type thrown) :
      FirstFails library namedArgs (paramName :: paramNames) (type :: types) thrown
  | later {paramName paramNames type types thrown value}
      (binds : Binds library namedArgs paramName type value)
      (later : FirstFails library namedArgs paramNames types thrown) :
      FirstFails library namedArgs (paramName :: paramNames) (type :: types) thrown

/-- The arguments as the loop collects them. -/
def packAll {Other : String → Type} :
    {types : List TypeInfo} → Arguments Other types → List (Any Other)
  | _, .nil => []
  | _, @Arguments.cons _ type _ value values => some ⟨type, value⟩ :: packAll values

theorem length_packAll {Other : String → Type} {types : List TypeInfo}
    (arguments : Arguments Other types) : (packAll arguments).length = types.length := by
  induction arguments with
  | nil => rfl
  | cons value values induction => rw [packAll, List.length_cons, List.length_cons, induction]

/-- The casts undo the packing. -/
theorem unpack_packAll {Other : String → Type} {types : List TypeInfo}
    (arguments : Arguments Other types) : unpack types (packAll arguments) = .ok arguments := by
  induction arguments with
  | nil => rfl
  | cons value values induction =>
      simp only [packAll, unpack, anyCast, ↓reduceDIte, bind, Except.bind, induction]

theorem func_packAll {Other : String → Type} (function : StdFunction Other)
    (arguments : Arguments Other function.paramTypes) :
    (function.func (packAll arguments)).invocations = [⟨function, arguments⟩] := by
  rw [StdFunction.func, if_neg (not_not_intro (length_packAll arguments)), StdFunction.callImpl,
    unpack_packAll]

variable {library : Library} {namedArgs : Json} {paramName : String} {type : TypeInfo}

theorem convertJsonToAny_of_convertible (convertible : type.Convertible) (json : Json) :
    library.convertJsonToAny json type = library.jsonToAny type json := by
  cases type with
  | void | other => exact convertible.elim
  | _ => rfl

theorem convertJsonToAny_of_not_convertible (unsupported : ¬ type.Convertible) (json : Json) :
    library.convertJsonToAny json type =
      .error (.rpcException .typeMismatch ("Unsupported type: " ++ library.demangle type)) := by
  cases type with
  | void | other => rfl
  | _ => exact absurd trivial unsupported

theorem Binds.orderedArg_eq {value : Value library.Other type}
    (binds : Binds library namedArgs paramName type value) :
    library.orderedArg namedArgs paramName type = .ok (some ⟨type, value⟩) := by
  obtain ⟨json, found, convertible, converted⟩ := binds
  obtain ⟨present, rfl⟩ := Json.exists_member_eq found
  rw [Library.orderedArg, dif_pos present, convertJsonToAny_of_convertible convertible,
    Library.jsonToAny, converted]

theorem Fails.orderedArg_eq {thrown : Thrown}
    (fails : Fails library namedArgs paramName type thrown) :
    library.orderedArg namedArgs paramName type = .error thrown := by
  cases fails with
  | missing absent =>
      rw [Library.orderedArg, dif_neg (by simp [Json.contains, absent])]
  | mismatched found convertible thrown =>
      obtain ⟨present, rfl⟩ := Json.exists_member_eq found
      rw [Library.orderedArg, dif_pos present, convertJsonToAny_of_convertible convertible,
        Library.jsonToAny, thrown]
  | unsupported found unsupported =>
      obtain ⟨present, rfl⟩ := Json.exists_member_eq found
      rw [Library.orderedArg, dif_pos present, convertJsonToAny_of_not_convertible unsupported]

theorem binds_or_fails (library : Library) (namedArgs : Json) (paramName : String)
    (type : TypeInfo) :
    (∃ value, Binds library namedArgs paramName type value) ∨
      ∃ thrown, Fails library namedArgs paramName type thrown := by
  cases found : namedArgs.find? paramName with
  | none => exact Or.inr ⟨_, .missing found⟩
  | some json =>
      rcases Classical.em type.Convertible with convertible | unsupported
      · cases converted : library.get type json with
        | error message => exact Or.inr ⟨_, .mismatched found convertible converted⟩
        | ok value => exact Or.inl ⟨value, json, found, convertible, converted⟩
      · exact Or.inr ⟨_, .unsupported found unsupported⟩

/-- Either all parameters can be bound, or a first one cannot. -/
theorem bindsAll_or_firstFails (library : Library) (namedArgs : Json) {paramNames : List String}
    {types : List TypeInfo} (length_eq : paramNames.length = types.length) :
    (∃ arguments, BindsAll library namedArgs paramNames types arguments) ∨
      ∃ thrown, FirstFails library namedArgs paramNames types thrown := by
  induction types generalizing paramNames with
  | nil =>
      obtain rfl := List.length_eq_zero_iff.mp length_eq
      exact Or.inl ⟨.nil, trivial⟩
  | cons type types induction =>
      obtain ⟨paramName, paramNames, rfl⟩ := List.exists_cons_of_length_eq_add_one length_eq
      rcases binds_or_fails library namedArgs paramName type with ⟨value, binds⟩ | ⟨thrown, fails⟩
      · rcases induction (Nat.succ.inj length_eq) with ⟨arguments, all⟩ | ⟨thrown, later⟩
        · exact Or.inl ⟨.cons value arguments, binds, all⟩
        · exact Or.inr ⟨thrown, .later binds later⟩
      · exact Or.inr ⟨thrown, .here fails⟩

theorem BindsAll.orderedArgs_eq {paramNames : List String} {types : List TypeInfo}
    {arguments : Arguments library.Other types}
    (all : BindsAll library namedArgs paramNames types arguments) :
    library.orderedArgs namedArgs (paramNames.zip types) = .ok (packAll arguments) := by
  induction arguments generalizing paramNames with
  | nil => cases paramNames with
    | nil => rfl
    | cons paramName paramNames => exact all.elim
  | cons value values induction =>
      cases paramNames with
      | nil => exact all.elim
      | cons paramName paramNames =>
          obtain ⟨binds, rest⟩ := all
          rw [List.zip_cons_cons, Library.orderedArgs, binds.orderedArg_eq, induction rest]
          rfl

theorem FirstFails.orderedArgs_eq {paramNames : List String} {types : List TypeInfo}
    {thrown : Thrown} (first : FirstFails library namedArgs paramNames types thrown) :
    library.orderedArgs namedArgs (paramNames.zip types) = .error thrown := by
  induction first with
  | here fails =>
      rw [List.zip_cons_cons, Library.orderedArgs, fails.orderedArg_eq]
      rfl
  | later binds later induction =>
      rw [List.zip_cons_cons, Library.orderedArgs, binds.orderedArg_eq, induction]
      rfl

theorem orderedArg_congr {other : Json}
    (same : other.find? paramName = namedArgs.find? paramName) :
    library.orderedArg other paramName type = library.orderedArg namedArgs paramName type := by
  rcases binds_or_fails library namedArgs paramName type with ⟨value, binds⟩ | ⟨thrown, fails⟩
  · have also_binds : Binds library other paramName type value := by
      rw [Binds, same]
      exact binds
    rw [binds.orderedArg_eq, also_binds.orderedArg_eq]
  · have also_fails : Fails library other paramName type thrown := by
      cases fails with
      | missing absent => exact .missing (same.trans absent)
      | mismatched found convertible thrown =>
          exact .mismatched (same.trans found) convertible thrown
      | unsupported found unsupported => exact .unsupported (same.trans found) unsupported
    rw [fails.orderedArg_eq, also_fails.orderedArg_eq]

/-- The loop looks at the members under the parameter names only. -/
theorem orderedArgs_congr {other : Json} {params : List (String × TypeInfo)}
    (same : ∀ param ∈ params, other.find? param.1 = namedArgs.find? param.1) :
    library.orderedArgs other params = library.orderedArgs namedArgs params := by
  induction params with
  | nil => rfl
  | cons param params induction =>
      obtain ⟨paramName, type⟩ := param
      obtain ⟨first_same, rest_same⟩ := List.forall_mem_cons.mp same
      rw [Library.orderedArgs, Library.orderedArgs, orderedArg_congr first_same,
        induction rest_same]

/-! ## Calls -/

/-- The exception of a call that invokes nothing. -/
inductive Refused (library : Library) (history : List (Registration library.Other)) (name : String)
    (ret : TypeInfo) (namedArgs : Json) : Thrown → Prop
  | functionNotFound
      (unregistered : ∀ function paramNames, ¬ Registered history name function paramNames) :
      Refused library history name ret namedArgs
        (.rpcException .functionNotFound ("Function not found: " ++ name))
  | returnMismatch {function paramNames}
      (registered : Registered history name function paramNames)
      (different : function.returnType ≠ ret) :
      Refused library history name ret namedArgs
        (.rpcException .typeMismatch
          ("Return type mismatch. Expected " ++ library.demangle function.returnType ++
            " but got " ++ library.demangle ret))
  | argument {function paramNames thrown}
      (registered : Registered history name function paramNames)
      (same : function.returnType = ret)
      (first : FirstFails library namedArgs paramNames function.paramTypes thrown) :
      Refused library history name ret namedArgs thrown

section

variable {provider : RpcProvider library.Other} {name : String} {ret : TypeInfo}
  {ready : Int64 → Bool} {info : FunctionInfo library.Other}

theorem call_of_unregistered (absent : provider name = none) :
    library.callFunctionNamed provider ret name namedArgs ready =
      { invocations := []
        outcome := .error (.rpcException .functionNotFound ("Function not found: " ++ name)) } := by
  rw [Library.callFunctionNamed, absent]

theorem call_of_mismatch (found : provider name = some info) (different : info.returnType ≠ ret) :
    library.callFunctionNamed provider ret name namedArgs ready =
      { invocations := []
        outcome := .error (.rpcException .typeMismatch
          ("Return type mismatch. Expected " ++ library.demangle info.returnType ++
            " but got " ++ library.demangle ret)) } := by
  rw [Library.callFunctionNamed, found]
  exact if_pos different

theorem call_of_failure (found : provider name = some info) (same : info.returnType = ret)
    {thrown : Thrown} (failed : library.orderedArgs namedArgs
      (info.paramNames.zip info.paramTypes) = .error thrown) :
    library.callFunctionNamed provider ret name namedArgs ready =
      { invocations := []
        outcome := .error thrown } := by
  rw [Library.callFunctionNamed, found]
  simp only [same, ne_eq, not_true_eq_false, ↓reduceIte, failed]

theorem invocations_of_collected (found : provider name = some info)
    (same : info.returnType = ret) {args : List (Any library.Other)}
    (collected : library.orderedArgs namedArgs
      (info.paramNames.zip info.paramTypes) = .ok args) :
    (library.callFunctionNamed provider ret name namedArgs ready).invocations =
      (info.func args).invocations := by
  rw [Library.callFunctionNamed, found]
  simp only [same, ne_eq, not_true_eq_false, ↓reduceIte, collected]

variable {history : List (Registration library.Other)} {function : StdFunction library.Other}
  {paramNames : List String}

variable (library) in
theorem invocations_of_bindsAll (registered : Registered history name function paramNames)
    (same : function.returnType = ret) {arguments : Arguments library.Other function.paramTypes}
    (all : BindsAll library namedArgs paramNames function.paramTypes arguments) :
    (library.callFunctionNamed (.after history) ret name namedArgs ready).invocations =
      [⟨function, arguments⟩] := by
  obtain ⟨info, found, stores⟩ := RpcProvider.exists_stores_of_registered registered
  have collected : library.orderedArgs namedArgs (info.paramNames.zip info.paramTypes) =
      .ok (packAll arguments) := by
    rw [stores.paramNames_eq, stores.paramTypes_eq]
    exact all.orderedArgs_eq
  rw [invocations_of_collected found (stores.returnType_eq.trans same) collected, stores.func_eq,
    func_packAll]

variable (library) in
theorem call_of_firstFails (registered : Registered history name function paramNames)
    (same : function.returnType = ret) {thrown : Thrown}
    (first : FirstFails library namedArgs paramNames function.paramTypes thrown) :
    library.callFunctionNamed (.after history) ret name namedArgs ready =
      { invocations := []
        outcome := .error thrown } := by
  obtain ⟨info, found, stores⟩ := RpcProvider.exists_stores_of_registered registered
  apply call_of_failure found (stores.returnType_eq.trans same)
  rw [stores.paramNames_eq, stores.paramTypes_eq]
  exact first.orderedArgs_eq

/-- A call invokes nothing and throws, or it invokes the function that was registered last. -/
theorem refused_or_invoked (library : Library) (history : List (Registration library.Other))
    (name : String) (ret : TypeInfo) (namedArgs : Json) (ready : Int64 → Bool) :
    (∃ thrown, Refused library history name ret namedArgs thrown ∧
      library.callFunctionNamed (.after history) ret name namedArgs ready =
        { invocations := []
          outcome := .error thrown }) ∨
      ∃ function paramNames arguments, Registered history name function paramNames ∧
        function.returnType = ret ∧
        BindsAll library namedArgs paramNames function.paramTypes arguments ∧
        (library.callFunctionNamed (.after history) ret name namedArgs ready).invocations =
          [⟨function, arguments⟩] := by
  cases found : RpcProvider.after history name with
  | none =>
      refine Or.inl ⟨_, .functionNotFound ?_, call_of_unregistered found⟩
      intro function paramNames registered
      obtain ⟨info, also_found, -⟩ := RpcProvider.exists_stores_of_registered registered
      rw [found] at also_found
      contradiction
  | some info =>
      obtain ⟨function, paramNames, registered, stores⟩ :=
        RpcProvider.exists_registered_of_stored found
      by_cases same : function.returnType = ret
      · have length_eq := info.length_eq
        rw [stores.paramNames_eq, stores.paramTypes_eq] at length_eq
        rcases bindsAll_or_firstFails library namedArgs length_eq with ⟨arguments, all⟩ |
          ⟨thrown, first⟩
        · exact Or.inr ⟨function, paramNames, arguments, registered, same, all,
            invocations_of_bindsAll library registered same all⟩
        · exact Or.inl ⟨thrown, .argument registered same first,
            call_of_firstFails library registered same first⟩
      · refine Or.inl ⟨_, .returnMismatch registered same, ?_⟩
        rw [call_of_mismatch found (by rwa [stores.returnType_eq]), stores.returnType_eq]

theorem call_congr {other : Json} (same : ∀ function paramNames,
    Registered history name function paramNames → ∀ paramName ∈ paramNames,
      other.find? paramName = namedArgs.find? paramName) :
    library.callFunctionNamed (.after history) ret name other ready =
      library.callFunctionNamed (.after history) ret name namedArgs ready := by
  unfold Library.callFunctionNamed
  cases found : RpcProvider.after history name with
  | none => rfl
  | some info =>
      obtain ⟨function, paramNames, registered, stores⟩ :=
        RpcProvider.exists_registered_of_stored found
      have args_eq : library.orderedArgs other (info.paramNames.zip info.paramTypes) =
          library.orderedArgs namedArgs (info.paramNames.zip info.paramTypes) := by
        apply orderedArgs_congr
        rintro ⟨paramName, type⟩ member
        apply same function paramNames registered
        rw [← stores.paramNames_eq]
        exact (List.of_mem_zip member).1
      simp only [args_eq]

end

/-- A call with named arguments invokes at most one body, and invokes it exactly if the function is
registered with the return type and every parameter can be bound, with the bound arguments; a call
that invokes nothing throws the exception for the first obstacle; and only the members under the
parameter names matter. -/
theorem callFunctionNamed_spec (library : Library) (history : List (Registration library.Other))
    (name : String) (ret : TypeInfo) (namedArgs : Json) (ready : Int64 → Bool) :
    let call := library.callFunctionNamed (.after history) ret name namedArgs ready
    call.invocations.length ≤ 1 ∧
      (∀ function arguments, call.invocations = [⟨function, arguments⟩] ↔
        ∃ paramNames, Registered history name function paramNames ∧ function.returnType = ret ∧
          BindsAll library namedArgs paramNames function.paramTypes arguments) ∧
      (call.invocations = [] → ∃ thrown, Refused library history name ret namedArgs thrown ∧
        call.outcome = .error thrown) ∧
      ∀ other : Json, (∀ function paramNames, Registered history name function paramNames →
          ∀ paramName ∈ paramNames, other.find? paramName = namedArgs.find? paramName) →
        library.callFunctionNamed (.after history) ret name other ready = call := by
  intro call
  refine ⟨?_, ?_, ?_, fun other same => call_congr same⟩
  · rcases refused_or_invoked library history name ret namedArgs ready with
      ⟨thrown, -, call_eq⟩ | ⟨function, paramNames, arguments, -, -, -, invoked⟩
    · simp [call, call_eq]
    · simp [call, invoked]
  · intro function arguments
    constructor
    · intro invoked
      rcases refused_or_invoked library history name ret namedArgs ready with
        ⟨thrown, -, call_eq⟩ | ⟨other, paramNames, values, registered, same, all, also_invoked⟩
      · simp [call, call_eq] at invoked
      · obtain ⟨rfl, values_eq⟩ := Sigma.mk.inj
          (List.singleton_injective (also_invoked.symm.trans invoked))
        obtain rfl := eq_of_heq values_eq
        exact ⟨paramNames, registered, same, all⟩
    · rintro ⟨paramNames, registered, same, all⟩
      exact invocations_of_bindsAll library registered same all
  · intro nothing
    rcases refused_or_invoked library history name ret namedArgs ready with
      ⟨thrown, refused, call_eq⟩ | ⟨function, paramNames, arguments, -, -, -, invoked⟩
    · exact ⟨thrown, refused, by simp [call, call_eq]⟩
    · simp [call, invoked] at nothing

end FramedTcp.Rpc
