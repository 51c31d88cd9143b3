import FramedTcp.Json
import Mathlib.Logic.Function.Basic
import Mathlib.Tactic

/-!
# The function provider

`RpcProvider` keeps functions under names with the names of their parameters; a call names its
arguments in a JSON value.  Values are passed as `std::any`, so every use of a value tests its type.
-/

namespace FramedTcp.Rpc

/-- A `std::type_info`. -/
inductive TypeInfo
  | int
  | long
  | float
  | double
  | bool
  | string
  | vectorInt
  | vectorString
  | void
  | other (name : String)
  deriving DecidableEq

/-- The values of a type. -/
def Value (Other : String → Type) : TypeInfo → Type
  | .int => Int32
  | .long => Int64
  | .float => Double
  | .double => Double
  | .bool => Bool
  | .string => String
  | .vectorInt => List Int32
  | .vectorString => List String
  | .void => Unit
  | .other name => Other name

/-- A tuple of values of the given types. -/
inductive Arguments (Other : String → Type) : List TypeInfo → Type
  | nil : Arguments Other []
  | cons {type types} (value : Value Other type) (values : Arguments Other types) :
      Arguments Other (type :: types)

/-- What the provider gets from outside. -/
structure Library where
  /-- The values of further types. -/
  Other : String → Type
  /-- The readable name of a type. -/
  demangle : TypeInfo → String
  /-- `get<T>`: a value, or the text of a `nlohmann::json::exception`. -/
  get : (type : TypeInfo) → Json → Except String (Value Other type)

/-- `RpcException::ErrorType`. -/
inductive ErrorType
  | functionNotFound
  | typeMismatch
  | argumentError
  | timeoutError
  deriving DecidableEq

/-- Exceptions. -/
inductive Thrown
  | rpcException (type : ErrorType) (message : String)
  | jsonException (message : String)
  | badAnyCast (message : String)
  | other (message : String)
  deriving DecidableEq

/-- A `std::any`; the empty one holds nothing. -/
abbrev Any (Other : String → Type) : Type := Option ((type : TypeInfo) × Value Other type)

/-- A function with its signature. -/
structure StdFunction (Other : String → Type) where
  /-- `Ret`. -/
  returnType : TypeInfo
  /-- `Args...`. -/
  paramTypes : List TypeInfo
  /-- The body, which may throw. -/
  body : Arguments Other paramTypes → Except Thrown (Value Other returnType)

/-- A function and the arguments with which its body has been invoked. -/
abbrev Invocation (Other : String → Type) : Type :=
  (function : StdFunction Other) × Arguments Other function.paramTypes

/-- What an asynchronous task has done when it ends. -/
structure Task (Other : String → Type) where
  /-- The bodies it has invoked. -/
  invocations : List (Invocation Other)
  /-- What it returns. -/
  result : Except Thrown (Any Other)

/-- A registered function. -/
structure FunctionInfo (Other : String → Type) where
  returnType : TypeInfo
  paramTypes : List TypeInfo
  paramNames : List String
  func : List (Any Other) → Task Other
  timeout : Int64 := 5000
  /-- Every parameter has a name. -/
  length_eq : paramNames.length = paramTypes.length

/-- The map `functions`. -/
abbrev RpcProvider (Other : String → Type) : Type := String → Option (FunctionInfo Other)

variable {Other : String → Type}

/-- `std::any_cast`. -/
def anyCast (type : TypeInfo) (any : Any Other) : Except Thrown (Value Other type) :=
  match any with
  | some ⟨stored, value⟩ =>
      if same : stored = type then .ok (same ▸ value) else .error (.badAnyCast "bad any_cast")
  | none => .error (.badAnyCast "bad any_cast")

/-- The casts of all arguments. -/
def unpack : (types : List TypeInfo) → List (Any Other) → Except Thrown (Arguments Other types)
  | [], _ => .ok .nil
  | type :: types, any :: anys => do
      let value ← anyCast type any
      let values ← unpack types anys
      .ok (.cons value values)
  | _ :: _, [] => .error (.badAnyCast "bad any_cast")

namespace StdFunction

/-- What a function returns as a `std::any`. -/
def pack (function : StdFunction Other) (value : Value Other function.returnType) : Any Other :=
  if function.returnType = .void then none else some ⟨function.returnType, value⟩

/-- `call_impl`: cast the arguments and invoke the body. -/
def callImpl (function : StdFunction Other) (args : List (Any Other)) : Task Other :=
  match unpack function.paramTypes args with
  | .error thrown =>
      { invocations := []
        result := .error thrown }
  | .ok arguments =>
      { invocations := [⟨function, arguments⟩]
        result := (function.body arguments).map function.pack }

/-- The stored function. -/
def func (function : StdFunction Other) (args : List (Any Other)) : Task Other :=
  if args.length ≠ function.paramTypes.length then
    { invocations := []
      result := .error (.rpcException .argumentError "Arguments count mismatch") }
  else
    function.callImpl args

end StdFunction

namespace RpcProvider

/-- Register a function under a name; an earlier one is replaced. -/
def registerFunction (provider : RpcProvider Other) (name : String) (function : StdFunction Other)
    (paramNames : List String) (timeout : Int64) : Except Thrown (RpcProvider Other) :=
  if mismatch : paramNames.length ≠ function.paramTypes.length then
    .error (.rpcException .argumentError "Parameter names count mismatch")
  else
    .ok (Function.update provider name (some
      { returnType := function.returnType
        paramTypes := function.paramTypes
        paramNames
        func := function.func
        timeout
        length_eq := not_not.mp mismatch }))

/-- Set the time limit of a registered function. -/
def setTimeout (provider : RpcProvider Other) (name : String) (timeout : Int64) :
    RpcProvider Other :=
  match provider name with
  | some info => Function.update provider name (some { info with timeout })
  | none => provider

end RpcProvider

namespace Library

variable (library : Library)

/-- `json_to_any`. -/
def jsonToAny (type : TypeInfo) (json : Json) : Except Thrown (Any library.Other) :=
  match library.get type json with
  | .ok value => .ok (some ⟨type, value⟩)
  | .error message => .error (.jsonException message)

/-- `convert_json_to_any`. -/
def convertJsonToAny (json : Json) (type : TypeInfo) : Except Thrown (Any library.Other) :=
  match type with
  | .int => library.jsonToAny .int json
  | .long => library.jsonToAny .long json
  | .float => library.jsonToAny .float json
  | .double => library.jsonToAny .double json
  | .bool => library.jsonToAny .bool json
  | .string => library.jsonToAny .string json
  | .vectorInt => library.jsonToAny .vectorInt json
  | .vectorString => library.jsonToAny .vectorString json
  | .void | .other _ =>
      .error (.rpcException .typeMismatch ("Unsupported type: " ++ library.demangle type))

/-- The argument for one parameter. -/
def orderedArg (namedArgs : Json) (paramName : String) (type : TypeInfo) :
    Except Thrown (Any library.Other) :=
  if present : namedArgs.contains paramName = true then
    match library.convertJsonToAny (namedArgs.member paramName present) type with
    | .error (.jsonException message) =>
        .error (.rpcException .typeMismatch
          ("JSON conversion error for parameter '" ++ paramName ++ "': " ++ message))
    | result => result
  else
    .error (.rpcException .argumentError ("Missing argument: " ++ paramName))

/-- The loop over the parameters. -/
def orderedArgs (namedArgs : Json) :
    List (String × TypeInfo) → Except Thrown (List (Any library.Other))
  | [] => .ok []
  | (paramName, type) :: params => do
      let arg ← library.orderedArg namedArgs paramName type
      let args ← orderedArgs namedArgs params
      .ok (arg :: args)

/-- What a call has done when it ends. -/
structure Call (Other : String → Type) (ret : TypeInfo) where
  /-- The bodies it has invoked. -/
  invocations : List (Invocation Other)
  /-- The value it returns, or the exception it throws. -/
  outcome : Except Thrown (Value Other ret)

end Library

/-- The value of a task as the call returns it. -/
def taskValue (ret : TypeInfo) (result : Except Thrown (Any Other)) :
    Except Thrown (Value Other ret) :=
  match ret, result with
  | .void, .ok _ => .ok ()
  | ret, .ok any => anyCast ret any
  | _, .error thrown => .error thrown

/-- `call_function_named`; the environment says whether the task is ready within the time limit. -/
def Library.callFunctionNamed (library : Library) (provider : RpcProvider library.Other)
    (ret : TypeInfo) (name : String) (namedArgs : Json) (ready : Int64 → Bool) :
    Library.Call library.Other ret :=
  match provider name with
  | none =>
      { invocations := []
        outcome := .error (.rpcException .functionNotFound ("Function not found: " ++ name)) }
  | some info =>
      if info.returnType ≠ ret then
        { invocations := []
          outcome := .error (.rpcException .typeMismatch
            ("Return type mismatch. Expected " ++ library.demangle info.returnType ++
              " but got " ++ library.demangle ret)) }
      else
        match library.orderedArgs namedArgs (info.paramNames.zip info.paramTypes) with
        | .error thrown =>
            { invocations := []
              outcome := .error thrown }
        | .ok args =>
            let task := info.func args
            { invocations := task.invocations
              outcome :=
                if ready info.timeout then
                  match taskValue ret task.result with
                  | .error (.badAnyCast message) =>
                      .error (.rpcException .typeMismatch ("Type conversion error: " ++ message))
                  | result => result
                else
                  .error (.rpcException .timeoutError ("Function call timed out: " ++ name)) }

/-! ## Histories of registrations -/

/-- Calls that change the provider. -/
inductive Registration (Other : String → Type)
  | registerFunction (name : String) (function : StdFunction Other) (paramNames : List String)
      (timeout : Int64)
  | setTimeout (name : String) (timeout : Int64)

namespace Registration

/-- The call registers the function: there are as many names as parameters. -/
def Registers (registration : Registration Other) (name : String) (function : StdFunction Other)
    (paramNames : List String) : Prop :=
  paramNames.length = function.paramTypes.length ∧
    ∃ timeout, registration = .registerFunction name function paramNames timeout

/-- The call registers some function under the name. -/
def Replaces (registration : Registration Other) (name : String) : Prop :=
  ∃ function paramNames, registration.Registers name function paramNames

end Registration

/-- The function was the last to be registered under the name. -/
def Registered (history : List (Registration Other)) (name : String) (function : StdFunction Other)
    (paramNames : List String) : Prop :=
  ∃ front registration back, history = front ++ registration :: back ∧
    registration.Registers name function paramNames ∧
    ∀ later ∈ back, ¬ later.Replaces name

theorem Registered.concat {history : List (Registration Other)} {name : String}
    {function : StdFunction Other} {paramNames : List String} {registration : Registration Other}
    (registered : Registered history name function paramNames)
    (kept : ¬ registration.Replaces name) :
    Registered (history ++ [registration]) name function paramNames := by
  obtain ⟨front, first, back, rfl, registers, all_kept⟩ := registered
  refine ⟨front, first, back ++ [registration], by simp, registers, ?_⟩
  intro later member
  rcases List.mem_append.mp member with earlier | last
  · exact all_kept later earlier
  · rwa [List.mem_singleton.mp last]

namespace RpcProvider

/-- A call that changes the provider; one that throws does not. -/
def apply (provider : RpcProvider Other) : Registration Other → RpcProvider Other
  | .registerFunction name function paramNames timeout =>
      match provider.registerFunction name function paramNames timeout with
      | .ok registered => registered
      | .error _ => provider
  | .setTimeout name timeout => provider.setTimeout name timeout

/-- The provider after a sequence of calls. -/
def after (history : List (Registration Other)) : RpcProvider Other :=
  history.foldl apply fun _ => none

end RpcProvider

/-- The stored signature, names and function. -/
structure FunctionInfo.Stores (info : FunctionInfo Other) (function : StdFunction Other)
    (paramNames : List String) : Prop where
  returnType_eq : info.returnType = function.returnType
  paramTypes_eq : info.paramTypes = function.paramTypes
  paramNames_eq : info.paramNames = paramNames
  func_eq : info.func = function.func

namespace RpcProvider

variable {provider : RpcProvider Other} {registration : Registration Other} {name : String}
  {function : StdFunction Other} {paramNames : List String}

theorem apply_of_registers (registers : registration.Registers name function paramNames) :
    ∃ info, provider.apply registration name = some info ∧ info.Stores function paramNames := by
  obtain ⟨length_eq, timeout, rfl⟩ := registers
  simp only [apply, registerFunction, length_eq, ne_eq, not_true_eq_false, ↓reduceDIte,
    Function.update_self]
  exact ⟨_, rfl, rfl, rfl, rfl, rfl⟩

/-- A call that does not replace a function changes its time limit at most. -/
theorem apply_of_not_replaces (kept : ¬ registration.Replaces name) :
    provider.apply registration name = provider name ∨
      ∃ info timeout, provider name = some info ∧
        provider.apply registration name = some { info with timeout } := by
  cases registration with
  | registerFunction other function paramNames timeout =>
      refine Or.inl ?_
      simp only [apply, registerFunction]
      by_cases length_eq : paramNames.length = function.paramTypes.length
      · have different : name ≠ other := by
          rintro rfl
          exact kept ⟨function, paramNames, length_eq, timeout, rfl⟩
        simp [length_eq, different]
      · simp [length_eq]
  | setTimeout other timeout =>
      simp only [apply, setTimeout]
      cases found : provider other with
      | none => exact Or.inl rfl
      | some info =>
          rcases eq_or_ne name other with rfl | different
          · exact Or.inr ⟨info, timeout, found, Function.update_self _ _ _⟩
          · exact Or.inl (Function.update_of_ne different _ _)

theorem stores_of_not_replaces (kept : ¬ registration.Replaces name) {info : FunctionInfo Other}
    (found : provider name = some info) (stores : info.Stores function paramNames) :
    ∃ later, provider.apply registration name = some later ∧
      later.Stores function paramNames := by
  rcases apply_of_not_replaces kept with same | ⟨before, timeout, before_found, after_eq⟩
  · exact ⟨info, same.trans found, stores⟩
  · obtain rfl := Option.some.inj (found.symm.trans before_found)
    exact ⟨_, after_eq, stores.1, stores.2, stores.3, stores.4⟩

theorem stores_of_none_replaces {back : List (Registration Other)}
    (kept : ∀ later ∈ back, ¬ later.Replaces name) {info : FunctionInfo Other}
    (found : provider name = some info) (stores : info.Stores function paramNames) :
    ∃ later, back.foldl apply provider name = some later ∧ later.Stores function paramNames := by
  induction back generalizing provider info with
  | nil => exact ⟨info, found, stores⟩
  | cons registration back induction =>
      obtain ⟨first_kept, back_kept⟩ := List.forall_mem_cons.mp kept
      obtain ⟨next, next_found, next_stores⟩ := stores_of_not_replaces first_kept found stores
      exact induction back_kept next_found next_stores

/-- What was registered last is stored. -/
theorem exists_stores_of_registered {history : List (Registration Other)}
    (registered : Registered history name function paramNames) :
    ∃ info, after history name = some info ∧ info.Stores function paramNames := by
  obtain ⟨front, registration, back, rfl, registers, kept⟩ := registered
  rw [after, List.foldl_append, List.foldl_cons]
  obtain ⟨info, found, stores⟩ := apply_of_registers registers
  exact stores_of_none_replaces kept found stores

/-- What is stored was registered last. -/
theorem exists_registered_of_stored {history : List (Registration Other)}
    {info : FunctionInfo Other} (found : after history name = some info) :
    ∃ function paramNames, Registered history name function paramNames ∧
      info.Stores function paramNames := by
  induction history using List.reverseRecOn generalizing info with
  | nil => contradiction
  | append_singleton history registration induction =>
      rw [after, List.foldl_append, List.foldl_cons, List.foldl_nil] at found
      change (after history).apply registration name = some info at found
      by_cases replaces : registration.Replaces name
      · obtain ⟨function, paramNames, registers⟩ := replaces
        obtain ⟨stored, stored_found, stores⟩ := apply_of_registers registers
        obtain rfl := Option.some.inj (found.symm.trans stored_found)
        exact ⟨function, paramNames, ⟨history, registration, [], rfl, registers, by simp⟩, stores⟩
      · rcases apply_of_not_replaces replaces with same | ⟨before, timeout, before_found, after_eq⟩
        · obtain ⟨function, paramNames, registered, stores⟩ := induction (same.symm.trans found)
          exact ⟨function, paramNames, registered.concat replaces, stores⟩
        · obtain ⟨function, paramNames, registered, stores⟩ := induction before_found
          obtain rfl := Option.some.inj (after_eq.symm.trans found)
          exact ⟨function, paramNames, registered.concat replaces, stores.1, stores.2, stores.3,
            stores.4⟩

end RpcProvider

end FramedTcp.Rpc
