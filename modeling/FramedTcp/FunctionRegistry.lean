import FramedTcp.NamedCalls

/-!
# The map of registered functions

Here `functions` is the map as the code keeps it: an entry promises nothing about its two vectors,
`register_function` changes the map statement by statement, and a call reads `paramTypes` at an
index that its loop takes from `paramNames`.  What the entries promise is then an invariant of the
map, and the calls are those of `Library.callFunctionNamed`.
-/

namespace FramedTcp.Rpc

/-- A `FunctionInfo` as it is stored; its function is a lambda that captures `func`. -/
structure Entry (Other : String → Type) where
  /-- `&typeid(Ret)`. -/
  returnType : TypeInfo
  /-- `{&typeid(Args)...}`. -/
  paramTypes : List TypeInfo
  /-- The names given by the caller. -/
  paramNames : List String
  /-- The function captured. -/
  func : StdFunction Other
  /-- The time limit. -/
  timeout : Int64 := 5000

/-- The map `functions`. -/
abbrev Registry (Other : String → Type) : Type := String → Option (Entry Other)

variable {Other : String → Type}

namespace Registry

/-- `register_function`: the map afterwards, and the exception if it throws. -/
def registerFunction (registry : Registry Other) (name : String) (function : StdFunction Other)
    (paramNames : List String) (timeout : Int64) : Registry Other × Except Thrown Unit :=
  if paramNames.length ≠ function.paramTypes.length then
    (registry, .error (.rpcException .argumentError "Parameter names count mismatch"))
  else
    let info : Entry Other :=
      { returnType := function.returnType
        paramTypes := function.paramTypes
        paramNames
        func := function
        timeout }
    (Function.update registry name (some info), .ok ())

/-- `set_timeout`. -/
def setTimeout (registry : Registry Other) (name : String) (timeout : Int64) : Registry Other :=
  match registry name with
  | some info => Function.update registry name (some { info with timeout })
  | none => registry

/-- A call that changes the map. -/
def apply (registry : Registry Other) :
    Registration Other → Registry Other × Except Thrown Unit
  | .registerFunction name function paramNames timeout =>
      registry.registerFunction name function paramNames timeout
  | .setTimeout name timeout => (registry.setTimeout name timeout, .ok ())

/-- The map after a sequence of calls. -/
def after (history : List (Registration Other)) : Registry Other :=
  history.foldl (fun registry registration => (registry.apply registration).1) fun _ => none

end Registry

namespace Library

variable (library : Library)

/-- The loop of `call_function_named` from the index `i` on; to read `paramTypes` out of range is
undefined. -/
def collectArgs (namedArgs : Json) (paramTypes : List TypeInfo) (i : ℕ) :
    List String → List (Any library.Other) →
      Option (Except Thrown (List (Any library.Other)))
  | [], orderedArgs => some (.ok orderedArgs)
  | paramName :: paramNames, orderedArgs =>
      if namedArgs.contains paramName = false then
        some (.error (.rpcException .argumentError ("Missing argument: " ++ paramName)))
      else
        match paramTypes[i]? with
        | none => none
        | some type =>
            match library.orderedArg namedArgs paramName type with
            | .error thrown => some (.error thrown)
            | .ok arg => collectArgs namedArgs paramTypes (i + 1) paramNames (orderedArgs ++ [arg])

/-- `call_function_named` on the map as it is. -/
def callStored (registry : Registry library.Other) (ret : TypeInfo) (name : String)
    (namedArgs : Json) (ready : Int64 → Bool) : Option (Library.Call library.Other ret) :=
  match registry name with
  | none =>
      some
        { invocations := []
          outcome := .error (.rpcException .functionNotFound ("Function not found: " ++ name)) }
  | some info =>
      if info.returnType ≠ ret then
        some
          { invocations := []
            outcome := .error (.rpcException .typeMismatch
              ("Return type mismatch. Expected " ++ library.demangle info.returnType ++
                " but got " ++ library.demangle ret)) }
      else
        (library.collectArgs namedArgs info.paramTypes 0 info.paramNames []).map fun collected =>
          match collected with
          | .error thrown =>
              { invocations := []
                outcome := .error thrown }
          | .ok orderedArgs =>
              let task := info.func.func orderedArgs
              { invocations := task.invocations
                outcome :=
                  if ready info.timeout then
                    match taskValue ret task.result with
                    | .error (.badAnyCast message) =>
                        .error (.rpcException .typeMismatch
                          ("Type conversion error: " ++ message))
                    | result => result
                  else
                    .error (.rpcException .timeoutError ("Function call timed out: " ++ name)) }

end Library

/-! ## The invariant of the map -/

/-- There are as many names as type tags as parameters, and each tag is that of its parameter. -/
structure Entry.WellFormed (info : Entry Other) : Prop where
  names_eq : info.paramNames.length = info.paramTypes.length
  params_eq : info.paramTypes.length = info.func.paramTypes.length
  tag_eq : ∀ i : ℕ, info.paramTypes[i]? = info.func.paramTypes[i]?

theorem Entry.WellFormed.paramTypes_eq {info : Entry Other} (wellFormed : info.WellFormed) :
    info.paramTypes = info.func.paramTypes :=
  List.ext_getElem? wellFormed.tag_eq

theorem Entry.WellFormed.withTimeout {info : Entry Other} (wellFormed : info.WellFormed)
    (timeout : Int64) : ({ info with timeout } : Entry Other).WellFormed :=
  ⟨wellFormed.names_eq, wellFormed.params_eq, wellFormed.tag_eq⟩

/-- Every entry keeps the invariant. -/
def Registry.WellFormed (registry : Registry Other) : Prop :=
  ∀ name info, registry name = some info → info.WellFormed

namespace Registry

theorem apply_of_error {registry : Registry Other} {registration : Registration Other}
    {thrown : Thrown} (throws : (registry.apply registration).2 = .error thrown) :
    (registry.apply registration).1 = registry := by
  cases registration with
  | registerFunction name function paramNames timeout =>
      simp only [apply, registerFunction] at throws ⊢
      split at throws
      · rename_i mismatch
        rw [if_pos mismatch]
      · contradiction
  | setTimeout name timeout => contradiction

theorem after_concat (history : List (Registration Other)) (registration : Registration Other) :
    after (history ++ [registration]) = ((after history).apply registration).1 := by
  rw [after, List.foldl_append]
  rfl

theorem WellFormed.update {registry : Registry Other} (wellFormed : registry.WellFormed)
    {info : Entry Other} (info_wellFormed : info.WellFormed) (name : String) :
    Registry.WellFormed (Function.update registry name (some info)) := by
  intro other stored found
  rcases eq_or_ne other name with rfl | different
  · rw [Function.update_self] at found
    obtain rfl := Option.some.inj found
    exact info_wellFormed
  · rw [Function.update_of_ne different] at found
    exact wellFormed other stored found

theorem WellFormed.apply {registry : Registry Other} (wellFormed : registry.WellFormed)
    (registration : Registration Other) : (registry.apply registration).1.WellFormed := by
  cases registration with
  | registerFunction name function paramNames timeout =>
      simp only [Registry.apply, registerFunction]
      split
      · exact wellFormed
      · rename_i names_eq
        exact wellFormed.update ⟨not_not.mp names_eq, rfl, fun _ => rfl⟩ name
  | setTimeout name timeout =>
      simp only [Registry.apply, setTimeout]
      split
      · rename_i info found
        exact wellFormed.update ((wellFormed name info found).withTimeout timeout) name
      · exact wellFormed

/-- Every sequence of calls keeps the invariant. -/
theorem wellFormed_after (history : List (Registration Other)) : (after history).WellFormed := by
  induction history using List.reverseRecOn with
  | nil => exact fun name info found => absurd found (by simp [after])
  | append_singleton history registration induction =>
      rw [after_concat]
      exact induction.apply registration

end Registry

/-! ## Calls on the map -/

section

variable {library : Library}

/-- While there are tags for all names, the loop reads each tag in range. -/
theorem collectArgs_eq (namedArgs : Json) (paramTypes : List TypeInfo) (i : ℕ)
    (paramNames : List String) (collected : List (Any library.Other))
    (in_range : paramNames.length ≤ (paramTypes.drop i).length) :
    library.collectArgs namedArgs paramTypes i paramNames collected =
      some ((library.orderedArgs namedArgs (paramNames.zip (paramTypes.drop i))).map
        (collected ++ ·)) := by
  induction paramNames generalizing i collected with
  | nil => simp [Library.collectArgs, Library.orderedArgs, Except.map]
  | cons paramName paramNames induction =>
      have index_lt : i < paramTypes.length := by
        rw [List.length_cons, List.length_drop] at in_range
        omega
      have drop_eq := List.drop_eq_getElem_cons index_lt
      have rest_in_range : paramNames.length ≤ (paramTypes.drop (i + 1)).length := by
        rw [drop_eq, List.length_cons, List.length_cons] at in_range
        exact Nat.le_of_succ_le_succ in_range
      rw [drop_eq, List.zip_cons_cons, Library.orderedArgs, Library.collectArgs,
        List.getElem?_eq_getElem index_lt]
      by_cases present : namedArgs.contains paramName = true
      · rw [if_neg (by simp [present])]
        cases converted : library.orderedArg namedArgs paramName paramTypes[i] with
        | error thrown => simp [converted, bind, Except.bind, Except.map]
        | ok arg =>
            simp only [converted]
            rw [induction (i + 1) (collected ++ [arg]) rest_in_range]
            cases library.orderedArgs namedArgs (paramNames.zip (paramTypes.drop (i + 1))) with
            | error thrown => rfl
            | ok args => simp [bind, Except.bind, Except.map]
      · rw [if_pos (by simpa using present), Library.orderedArg, dif_neg present]
        rfl

end

/-! ## The map refines the provider -/

/-- The entry and the function of the provider agree. -/
structure Entry.Refines (info : Entry Other) (abstract : FunctionInfo Other) : Prop where
  returnType_eq : info.returnType = abstract.returnType
  paramTypes_eq : info.paramTypes = abstract.paramTypes
  paramNames_eq : info.paramNames = abstract.paramNames
  func_eq : info.func.func = abstract.func
  timeout_eq : info.timeout = abstract.timeout

theorem Entry.Refines.withTimeout {info : Entry Other} {abstract : FunctionInfo Other}
    (refines : info.Refines abstract) (timeout : Int64) :
    ({ info with timeout } : Entry Other).Refines { abstract with timeout } :=
  ⟨refines.returnType_eq, refines.paramTypes_eq, refines.paramNames_eq, refines.func_eq, rfl⟩

namespace Registry

/-- The map has the functions of the provider. -/
def Refines (registry : Registry Other) (provider : RpcProvider Other) : Prop :=
  ∀ name, Option.Rel Entry.Refines (registry name) (provider name)

/-- A name is in neither map, or both have the function. -/
theorem Refines.both {registry : Registry Other} {provider : RpcProvider Other}
    (refines : registry.Refines provider) (name : String) :
    (registry name = none ∧ provider name = none) ∨
      ∃ info abstract, registry name = some info ∧ provider name = some abstract ∧
        info.Refines abstract := by
  have related := refines name
  cases stored : registry name <;> cases found : provider name <;> rw [stored, found] at related
  case none.none => exact Or.inl ⟨rfl, rfl⟩
  case some.some info abstract =>
    cases related with
    | some agrees => exact Or.inr ⟨info, abstract, rfl, rfl, agrees⟩
  all_goals cases related

theorem Refines.update {registry : Registry Other} {provider : RpcProvider Other}
    (refines : registry.Refines provider) {info : Entry Other} {abstract : FunctionInfo Other}
    (info_refines : info.Refines abstract) (name : String) :
    Registry.Refines (Function.update registry name (some info))
      (Function.update provider name (some abstract)) := by
  intro other
  rcases eq_or_ne other name with rfl | different
  · rw [Function.update_self, Function.update_self]
    exact .some info_refines
  · rw [Function.update_of_ne different, Function.update_of_ne different]
    exact refines other

theorem Refines.apply {registry : Registry Other} {provider : RpcProvider Other}
    (refines : registry.Refines provider) (registration : Registration Other) :
    (registry.apply registration).1.Refines (provider.apply registration) := by
  cases registration with
  | registerFunction name function paramNames timeout =>
      simp only [Registry.apply, registerFunction, RpcProvider.apply,
        RpcProvider.registerFunction]
      by_cases names_eq : paramNames.length = function.paramTypes.length
      · simp only [names_eq, ne_eq, not_true_eq_false, ↓reduceIte, ↓reduceDIte]
        exact refines.update ⟨rfl, rfl, rfl, rfl, rfl⟩ name
      · simp only [names_eq, ne_eq, not_false_eq_true, ↓reduceIte, ↓reduceDIte]
        exact refines
  | setTimeout name timeout =>
      simp only [Registry.apply, setTimeout, RpcProvider.apply, RpcProvider.setTimeout]
      rcases refines.both name with ⟨unstored, absent⟩ | ⟨info, abstract, stored, found, agrees⟩
      · rw [unstored, absent]
        exact refines
      · rw [stored, found]
        exact refines.update (agrees.withTimeout timeout) name

theorem refines_after (history : List (Registration Other)) :
    (after history).Refines (RpcProvider.after history) := by
  induction history using List.reverseRecOn with
  | nil => exact fun name => .none
  | append_singleton history registration induction =>
      rw [after_concat, RpcProvider.after, List.foldl_append]
      exact induction.apply registration

end Registry

/-- A call on the map is the call on the provider; no tag is read out of range. -/
theorem callStored_eq {library : Library} {registry : Registry library.Other}
    {provider : RpcProvider library.Other} (refines : registry.Refines provider) (ret : TypeInfo)
    (name : String) (namedArgs : Json) (ready : Int64 → Bool) :
    library.callStored registry ret name namedArgs ready =
      some (library.callFunctionNamed provider ret name namedArgs ready) := by
  rw [Library.callStored, Library.callFunctionNamed]
  rcases refines.both name with ⟨unstored, absent⟩ | ⟨info, abstract, stored, found, agrees⟩
  · rw [unstored, absent]
  · obtain ⟨returnType, paramTypes, paramNames, func, timeout, length_eq⟩ := abstract
    obtain ⟨rfl, rfl, rfl, rfl, rfl⟩ := agrees
    rw [stored, found]
    by_cases different : info.returnType ≠ ret
    · simp only [if_pos different]
    · have in_range : info.paramNames.length ≤ (info.paramTypes.drop 0).length := by
        rw [List.drop_zero, length_eq]
      simp only [if_neg different]
      rw [collectArgs_eq namedArgs info.paramTypes 0 info.paramNames [] in_range, List.drop_zero,
        Option.map_some]
      cases library.orderedArgs namedArgs (info.paramNames.zip info.paramTypes) with
      | error thrown => rfl
      | ok args => rfl

/-! ## The invariant of every history -/

/-- The arguments that the loop collects for an entry pass the check of their number and all
casts. -/
theorem Entry.WellFormed.collects {library : Library} {info : Entry library.Other}
    (wellFormed : info.WellFormed) (namedArgs : Json) :
    ∃ collected, library.collectArgs namedArgs info.paramTypes 0 info.paramNames [] =
        some collected ∧
      ∀ args, collected = .ok args →
        args.length = info.func.paramTypes.length ∧
          ∃ arguments, unpack info.func.paramTypes args = .ok arguments := by
  have in_range : info.paramNames.length ≤ (info.paramTypes.drop 0).length :=
    wellFormed.names_eq.le
  refine ⟨_, collectArgs_eq namedArgs info.paramTypes 0 info.paramNames [] in_range, ?_⟩
  intro args collected
  rw [List.drop_zero, wellFormed.paramTypes_eq] at collected
  have length_eq := wellFormed.names_eq.trans wellFormed.params_eq
  rcases bindsAll_or_firstFails library namedArgs length_eq with ⟨arguments, all⟩ |
    ⟨thrown, first⟩
  · rw [all.orderedArgs_eq] at collected
    obtain rfl : packAll arguments = args := by simpa [Except.map] using collected
    exact ⟨length_packAll arguments, arguments, unpack_packAll arguments⟩
  · rw [first.orderedArgs_eq] at collected
    contradiction

/-- After every sequence of calls, a registration that throws leaves the map unchanged; every entry
has as many names as type tags as parameters, tag by tag the types of the parameters; so no call
reads a tag out of range, and no collected arguments fail the check of their number or a cast. -/
theorem registry_invariant (library : Library) (history : List (Registration library.Other)) :
    let registry := Registry.after history
    (∀ registration thrown, (registry.apply registration).2 = .error thrown →
        (registry.apply registration).1 = registry) ∧
      (∀ name info, registry name = some info →
        info.WellFormed ∧
          ∀ namedArgs args, library.collectArgs namedArgs info.paramTypes 0 info.paramNames [] =
              some (.ok args) →
            args.length = info.func.paramTypes.length ∧
              ∃ arguments, unpack info.func.paramTypes args = .ok arguments) ∧
      ∀ ret name namedArgs ready,
        library.callStored registry ret name namedArgs ready =
          some (library.callFunctionNamed (.after history) ret name namedArgs ready) := by
  refine ⟨fun _ _ => Registry.apply_of_error, ?_, ?_⟩
  · intro name info found
    have wellFormed := Registry.wellFormed_after history name info found
    refine ⟨wellFormed, fun namedArgs args collected => ?_⟩
    obtain ⟨outcome, also_collected, passes⟩ := wellFormed.collects namedArgs
    rw [also_collected] at collected
    exact passes args (Option.some.inj collected)
  · exact callStored_eq (Registry.refines_after history)

end FramedTcp.Rpc
