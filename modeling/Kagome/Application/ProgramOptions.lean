import Kagome.Application.Json

/-!
# The command line of `initialize_from_args` (`boost::program_options`)

The options are declared with `po::value<T>()`; parsing and storing a command line leaves
a variables map in which every given option holds a `boost::any` of its declared type. A
command line the parser accepts is therefore a variables map whose entries are declared
options of their declared types; the tokenizer and the `lexical_cast` that produce it are
boost's. `find_argument<T>` reads an entry with `variable_value::as<T>()`, an
`any_cast` that throws `boost::bad_any_cast` when the entry does not hold a `T`.
-/

namespace Kagome.Application

/-- An `int`. -/
structure Int32 where
  val : Int
  le_val : -2 ^ 31 ≤ val
  val_lt : val < 2 ^ 31
  deriving DecidableEq

/-- The types an option is declared or read with; `switch` for an option with no value. -/
inductive ValueType where
  | switch
  | int
  | uint16
  | uint32
  | string
  | strings
  deriving DecidableEq

abbrev ValueType.denote : ValueType → Type
  | .switch => Unit
  | .int => Int32
  | .uint16 => UInt16
  | .uint32 => UInt32
  | .string => String
  | .strings => List String

/-- A `boost::any`: the type of the value it holds, and the value. -/
structure Any where
  type : ValueType
  value : type.denote

/-- `boost::any_cast<T>`. -/
def Any.cast (t : ValueType) (a : Any) : Option t.denote :=
  if h : a.type = t then some (h ▸ a.value) else none

@[simp] theorem Any.cast_self (t : ValueType) (v : t.denote) : Any.cast t ⟨t, v⟩ = some v := by
  simp [Any.cast]

theorem Any.cast_of_ne {t : ValueType} {a : Any} (h : a.type ≠ t) : a.cast t = none := by
  simp [Any.cast, h]

/-- The options of `initialize_from_args` and the types they are declared with. -/
def options : List (String × ValueType) :=
  [("help", .switch), ("verbosity", .int), ("config_file", .string),
   ("genesis", .string),
   ("base_path", .string),
   ("listen-addr", .strings), ("node-key", .string), ("bootnodes", .strings),
   ("p2p_port", .uint16), ("rpc_http_host", .string), ("rpc_http_port", .uint16),
   ("rpc_ws_host", .string), ("rpc_ws_port", .uint16), ("max_blocks_in_response", .int),
   ("single_finalizing_node", .switch), ("already_synchronized", .switch),
   ("unix_slots", .switch)]

/-- `po::variables_map` after a command line the parser accepts has been stored: each entry
is a declared option holding a value of its declared type. -/
structure VariablesMap where
  entries : List (String × Any)
  typed : ∀ e ∈ entries, options.lookup e.1 = some e.2.type

namespace VariablesMap

/-- `vm.find(name)`. -/
def find (vm : VariablesMap) (name : String) : Option Any := vm.entries.lookup name

/-- The value of option `name` when it was given and is a `t`. -/
def get (vm : VariablesMap) (t : ValueType) (name : String) : Option t.denote :=
  (vm.find name).bind (Any.cast t)

private theorem mem_of_lookup {β : Type} {l : List (String × β)} {k : String} {b : β}
    (h : l.lookup k = some b) : (k, b) ∈ l := by
  obtain ⟨l₁, l₂, rfl, -⟩ := List.lookup_eq_some_iff.mp h
  simp

theorem find_type {vm : VariablesMap} {name : String} {a : Any} (h : vm.find name = some a) :
    options.lookup name = some a.type :=
  vm.typed _ (mem_of_lookup h)

end VariablesMap

/-- `find_argument<T>(vm, name, f)`. -/
def findArgument {σ : Type} (t : ValueType) (vm : VariablesMap) (name : String)
    (f : t.denote → σ → Except Failure σ) (s : σ) : Except Failure σ :=
  match vm.find name with
  | none => pure s
  | some a =>
    match a.cast t with
    | some v => f v s
    | none => throw (.threw "boost::bad_any_cast")

/-- An option read at its declared type never throws: `find_argument` runs `f` on its value
when it was given. -/
theorem findArgument_of_declared {σ : Type} {t : ValueType} {vm : VariablesMap} (name : String)
    (h : options.lookup name = some t) (f : t.denote → σ → Except Failure σ) (s : σ) :
    findArgument t vm name f s = match vm.get t name with
      | some v => f v s
      | none => pure s := by
  unfold findArgument VariablesMap.get
  cases hf : vm.find name with
  | none => rfl
  | some a =>
    have ht : a.type = t := by simpa [h] using (VariablesMap.find_type hf).symm
    obtain ⟨_, v⟩ := a
    subst ht
    simp

/-- `find_argument` with a callback that only assigns. -/
theorem findArgument_set {σ : Type} {t : ValueType} {vm : VariablesMap} (name : String)
    (h : options.lookup name = some t) (set : t.denote → σ → σ) (s : σ) :
    findArgument t vm name (fun v s => pure (set v s)) s = .ok ((vm.get t name).elim s (set · s)) := by
  rw [findArgument_of_declared name h]
  cases vm.get t name <;> rfl

/-- A callback that assigns one member from an option that may be absent: absent, the member
keeps its value. -/
theorem elim_assign {σ α : Type} (get : σ → α) (set : α → σ → σ)
    (hset : ∀ s, set (get s) s = s) (o : Option α) (s : σ) :
    o.elim s (set · s) = set (o.getD (get s)) s := by
  cases o
  exacts [(hset s).symm, rfl]

/-- An option given on the command line and read at another type than it was declared
with makes `find_argument` throw. -/
theorem findArgument_of_mismatch {σ : Type} {t t' : ValueType} {vm : VariablesMap}
    (name : String) (h : options.lookup name = some t') (hne : t' ≠ t)
    (hgiven : (vm.find name).isSome) (f : t.denote → σ → Except Failure σ) (s : σ) :
    findArgument t vm name f s = .error (.threw "boost::bad_any_cast") := by
  obtain ⟨a, ha⟩ := Option.isSome_iff_exists.mp hgiven
  have ht : a.type = t' := by simpa [h] using (VariablesMap.find_type ha).symm
  simp [findArgument, ha, Any.cast_of_ne (ht ▸ hne)]

end Kagome.Application
