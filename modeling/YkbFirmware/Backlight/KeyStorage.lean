import Mathlib.Data.Finset.Range
import Mathlib.Tactic.SplitIfs

/-!
# The storage given to the VM

`lumiscript_load` of `lumiscript_vm.c` describes its static arrays to the VM:
each pointer comes with a capacity.  A script keeps every key variable once
for each key, so `key_cell_capacity` is given as the product of the two
counts; the array it describes is declared with one cell for each variable.

The VM is another repository and a parameter here.
-/

namespace YkbFirmware.Backlight.KeyStorage

/-! ## The static arrays -/

/-- `CONFIG_YKB_BL_LUMIVM_*` and `CONFIG_KB_SETTINGS_KEY_COUNT`. -/
structure LumivmOptions where
  constCap : Nat
  globalCap : Nat
  keyVarCap : Nat
  codeCap : Nat
  stackCap : Nat
  keyCount : Nat
  someKeyVars : 0 < keyVarCap
  someKeys : 0 < keyCount

/-- The arrays of the module. -/
inductive StaticArray where
  | constants
  | initialGlobals
  | initialKeys
  | initCode
  | updateCode
  | renderCode
  | globals
  | keys
  | stack
deriving DecidableEq, Repr

/-- The number of cells each is declared with. -/
def StaticArray.length (options : LumivmOptions) : StaticArray → Nat
  | .constants => options.constCap
  | .initialGlobals | .globals => options.globalCap
  | .initialKeys | .keys => options.keyVarCap
  | .initCode | .updateCode | .renderCode => options.codeCap
  | .stack => options.stackCap

/-- A pointer and the capacity it is given with. -/
structure Buffer where
  array : StaticArray
  capacity : Nat
deriving DecidableEq, Repr

/-- The capacity is no larger than the array. -/
def Buffer.Fits (options : LumivmOptions) (buffer : Buffer) : Prop :=
  buffer.capacity ≤ buffer.array.length options

/-- `lumi_vm_program_storage`; `key_capacity` is that of `initial_keys`. -/
structure LumiVmProgramStorage where
  constants : Buffer
  initialGlobals : Buffer
  initialKeys : Buffer
  initCode : Buffer
  updateCode : Buffer
  renderCode : Buffer

/-- `lumi_vm_state_storage`; `key_cell_capacity` is that of `keys`. -/
structure LumiVmStateStorage where
  globals : Buffer
  keys : Buffer
  stack : Buffer

/-! ## The VM -/

/-- The functions of the VM that loading calls; a failure is `none`. -/
structure LumiVm where
  Requirements : Type
  Program : Type
  State : Type
  measureBytecode : List UInt8 → Option Requirements
  canLoad :
    Requirements → LumiVmProgramStorage → LumiVmStateStorage → Nat → Bool
  loadProgram : List UInt8 → LumiVmProgramStorage → Option Program
  initState : Program → LumiVmStateStorage → Nat → Option State
  /-- the number of key variables of a measured script -/
  keyVariables : Requirements → Nat
  /-- the cells of `state_storage.keys` an initialised script works on -/
  usedKeyCells : State → Finset Nat

/--
A script is only accepted if its key variables and their cells are within the
capacities, and then it uses one cell for each variable of each key.
-/
structure LumiVm.HandlesKeys (vm : LumiVm) : Prop where
  counts :
    ∀ requirements programStorage stateStorage keyCount,
      vm.canLoad requirements programStorage stateStorage keyCount = true →
        vm.keyVariables requirements ≤ programStorage.initialKeys.capacity
  cells :
    ∀ requirements programStorage stateStorage keyCount,
      vm.canLoad requirements programStorage stateStorage keyCount = true →
        vm.keyVariables requirements * keyCount ≤ stateStorage.keys.capacity
  used :
    ∀ bytecode requirements programStorage stateStorage keyCount program
        state,
      vm.measureBytecode bytecode = some requirements →
        vm.canLoad requirements programStorage stateStorage keyCount =
            true →
          vm.loadProgram bytecode programStorage = some program →
            vm.initState program stateStorage keyCount = some state →
              vm.usedKeyCells state =
                Finset.range (vm.keyVariables requirements * keyCount)

/-- The static variables of the module. -/
structure LumiscriptStatics (vm : LumiVm) where
  req : Option vm.Requirements
  programStorage : Option LumiVmProgramStorage
  stateStorage : Option LumiVmStateStorage
  program : Option vm.Program
  state : Option vm.State
  scriptLoaded : Bool

/-! ## Loading -/

/-- `SIZE_MAX` of the 32-bit targets. -/
def sizeMax : Nat := 0xFFFFFFFF

/-- `size_mul_overflow`: the product, or `none` for an overflow. -/
def sizeMulOverflow (a b : Nat) : Option Nat :=
  if a ≠ 0 ∧ b > sizeMax / a then none else some (a * b)

/-- The program storage `lumiscript_load` builds. -/
def programStorageOf (options : LumivmOptions) : LumiVmProgramStorage where
  constants := ⟨.constants, options.constCap⟩
  initialGlobals := ⟨.initialGlobals, options.globalCap⟩
  initialKeys := ⟨.initialKeys, options.keyVarCap⟩
  initCode := ⟨.initCode, options.codeCap⟩
  updateCode := ⟨.updateCode, options.codeCap⟩
  renderCode := ⟨.renderCode, options.codeCap⟩

/-- The state storage it builds. -/
def stateStorageOf (options : LumivmOptions) (totalKeyCells : Nat) :
    LumiVmStateStorage where
  globals := ⟨.globals, options.globalCap⟩
  keys := ⟨.keys, totalKeyCells⟩
  stack := ⟨.stack, options.stackCap⟩

/-- `lumiscript_load`: the statics it leaves and its result. -/
def lumiscriptLoad
    (options : LumivmOptions) (vm : LumiVm) (statics : LumiscriptStatics vm)
    (bytecode : List UInt8) : LumiscriptStatics vm × Int :=
  match vm.measureBytecode bytecode with
  | none => (statics, -1)
  | some req =>
      let statics := { statics with req := some req }
      match sizeMulOverflow options.keyVarCap options.keyCount with
      | none => (statics, -2)
      | some totalKeyCells =>
          let programStorage := programStorageOf options
          let stateStorage := stateStorageOf options totalKeyCells
          let statics :=
            { statics with
              programStorage := some programStorage
              stateStorage := some stateStorage }
          if vm.canLoad req programStorage stateStorage options.keyCount =
              false then
            (statics, -3)
          else
            match vm.loadProgram bytecode programStorage with
            | none => (statics, -4)
            | some program =>
                let statics := { statics with program := some program }
                match
                    vm.initState program stateStorage options.keyCount with
                | none => (statics, -5)
                | some state =>
                    ({ statics with
                        state := some state
                        scriptLoaded := true },
                      0)

/-! ## What a load leaves -/

/-- Every cell the script uses lies inside the array behind `keys`. -/
def KeyCellsInside
    (options : LumivmOptions) {vm : LumiVm} (statics : LumiscriptStatics vm) :
    Prop :=
  ∀ state stateStorage, statics.state = some state →
    statics.stateStorage = some stateStorage →
      ∀ cell ∈ vm.usedKeyCells state,
        cell < stateStorage.keys.array.length options

/-- No capacity is larger than the array it describes. -/
structure CapacitiesFit
    (options : LumivmOptions) (programStorage : LumiVmProgramStorage)
    (stateStorage : LumiVmStateStorage) : Prop where
  constants : programStorage.constants.Fits options
  initialGlobals : programStorage.initialGlobals.Fits options
  initialKeys : programStorage.initialKeys.Fits options
  initCode : programStorage.initCode.Fits options
  updateCode : programStorage.updateCode.Fits options
  renderCode : programStorage.renderCode.Fits options
  globals : stateStorage.globals.Fits options
  keys : stateStorage.keys.Fits options
  stack : stateStorage.stack.Fits options

/-- The storage the VM works with is as large as it has been told. -/
structure StorageFits
    (options : LumivmOptions) {vm : LumiVm} (statics : LumiscriptStatics vm) :
    Prop where
  cells : KeyCellsInside options statics
  capacities :
    ∀ programStorage stateStorage,
      statics.programStorage = some programStorage →
        statics.stateStorage = some stateStorage →
          CapacitiesFit options programStorage stateStorage

/-- What a load leaves that has passed every check of the VM. -/
inductive Loaded
    (options : LumivmOptions) (vm : LumiVm) (bytecode : List UInt8) :
    LumiscriptStatics vm → Prop where
  | intro
      {req : vm.Requirements} {program : vm.Program} {state : vm.State}
      {stateStorage : LumiVmStateStorage}
      (storage :
        stateStorage =
          stateStorageOf options (options.keyVarCap * options.keyCount))
      (measured : vm.measureBytecode bytecode = some req)
      (accepted :
        vm.canLoad req (programStorageOf options) stateStorage
            options.keyCount =
          true)
      (loads :
        vm.loadProgram bytecode (programStorageOf options) = some program)
      (initialises :
        vm.initState program stateStorage options.keyCount = some state) :
      Loaded options vm bytecode
        { req := some req
          programStorage := some (programStorageOf options)
          stateStorage := some stateStorage
          program := some program
          state := some state
          scriptLoaded := true }

section Load

variable
    {options : LumivmOptions} {vm : LumiVm}
    {before after : LumiscriptStatics vm} {bytecode : List UInt8}

theorem sizeMulOverflow_eq_some {a b product : Nat}
    (fits : sizeMulOverflow a b = some product) : product = a * b := by
  rw [sizeMulOverflow] at fits
  split_ifs at fits
  exact (Option.some.inj fits).symm

/-- A load that returns 0 has passed every check. -/
theorem loaded_of_returned
    (returned : lumiscriptLoad options vm before bytecode = (after, 0)) :
    Loaded options vm bytecode after := by
  rw [lumiscriptLoad] at returned
  cases measured : vm.measureBytecode bytecode with
  | none => simp [measured] at returned
  | some req =>
      cases product : sizeMulOverflow options.keyVarCap options.keyCount with
      | none => simp [measured, product] at returned
      | some totalKeyCells =>
          simp only [measured, product] at returned
          split_ifs at returned with refused
          · simp at returned
          · cases loads :
                vm.loadProgram bytecode (programStorageOf options) with
            | none => simp [loads] at returned
            | some program =>
                simp only [loads] at returned
                cases initialises :
                    vm.initState program
                      (stateStorageOf options totalKeyCells)
                      options.keyCount with
                | none => simp [initialises] at returned
                | some state =>
                    simp only [initialises, Prod.mk.injEq, and_true]
                      at returned
                    subst returned
                    refine .intro ?_ measured ?_ loads initialises
                    · rw [sizeMulOverflow_eq_some product]
                    · simpa using refused

/-- The capacities are true of a keyboard with one key only. -/
theorem capacitiesFit_iff :
    CapacitiesFit options (programStorageOf options)
        (stateStorageOf options (options.keyVarCap * options.keyCount)) ↔
      options.keyCount = 1 := by
  have someVars := options.someKeyVars
  have someKeys := options.someKeys
  constructor
  · intro fit
    have keys :
        options.keyVarCap * options.keyCount ≤ options.keyVarCap * 1 := by
      rw [Nat.mul_one]
      exact fit.keys
    have atMostOne := Nat.le_of_mul_le_mul_left keys someVars
    omega
  · intro single
    exact
      { constants := le_refl options.constCap
        initialGlobals := le_refl options.globalCap
        initialKeys := le_refl options.keyVarCap
        initCode := le_refl options.codeCap
        updateCode := le_refl options.codeCap
        renderCode := le_refl options.codeCap
        globals := le_refl options.globalCap
        keys := by
          change options.keyVarCap * options.keyCount ≤ options.keyVarCap
          rw [single, Nat.mul_one]
        stack := le_refl options.stackCap }

end Load

/--
After a load that returns 0, the cells the script uses lie inside the array if
and only if there are no more of them than key variables allowed for; and all
of the storage is as large as the VM is told if and only if there is one key.
-/
theorem loaded_script_fits_iff
    (options : LumivmOptions) (vm : LumiVm) (handlesKeys : vm.HandlesKeys)
    (before after : LumiscriptStatics vm) (bytecode : List UInt8)
    (returned : lumiscriptLoad options vm before bytecode = (after, 0)) :
    (StorageFits options after ↔ options.keyCount = 1) ∧
      ∀ req, vm.measureBytecode bytecode = some req →
        (KeyCellsInside options after ↔
          vm.keyVariables req * options.keyCount ≤ options.keyVarCap) := by
  cases loaded_of_returned returned with
  | @intro req program state stateStorage storage measured accepted loads
      initialises =>
      have used :=
        handlesKeys.used _ _ _ _ _ _ _ measured accepted loads initialises
      have cells := handlesKeys.cells _ _ _ _ accepted
      have inside :
          KeyCellsInside options
              (⟨some req, some (programStorageOf options), some stateStorage,
                some program, some state, true⟩ : LumiscriptStatics vm) ↔
            vm.keyVariables req * options.keyCount ≤ options.keyVarCap := by
        subst storage
        constructor
        · intro below
          by_contra beyond
          have last :=
            below state _ rfl rfl options.keyVarCap
              (by rw [used, Finset.mem_range]; exact Nat.not_le.mp beyond)
          exact Nat.lt_irrefl _ last
        · rintro few _ _ ⟨⟩ ⟨⟩ cell member
          rw [used, Finset.mem_range] at member
          exact Nat.lt_of_lt_of_le member few
      constructor
      · constructor
        · intro fits
          subst storage
          exact capacitiesFit_iff.mp (fits.capacities _ _ rfl rfl)
        · intro single
          subst storage
          refine ⟨inside.mpr ?_, ?_⟩
          · simpa [stateStorageOf, single] using cells
          · rintro _ _ ⟨⟩ ⟨⟩
            exact capacitiesFit_iff.mpr single
      · intro other same
        cases measured.symm.trans same
        exact inside

/-! ## One key and two -/

/--
A VM whose scripts are one byte, the number of key variables; it looks at
nothing but the key storage.
-/
def countingVm : LumiVm where
  Requirements := Nat
  Program := Nat
  State := Nat
  measureBytecode := fun bytecode => bytecode.head?.map UInt8.toNat
  canLoad := fun req programStorage stateStorage keyCount =>
    req ≤ programStorage.initialKeys.capacity &&
      req * keyCount ≤ stateStorage.keys.capacity
  loadProgram := fun bytecode _ => bytecode.head?.map UInt8.toNat
  initState := fun program _ keyCount => some (program * keyCount)
  keyVariables := id
  usedKeyCells := Finset.range

theorem countingVm_handlesKeys : countingVm.HandlesKeys where
  counts := fun _ _ _ _ accepted => by
    simp only [countingVm, Bool.and_eq_true, decide_eq_true_eq] at accepted
    exact accepted.1
  cells := fun _ _ _ _ accepted => by
    simp only [countingVm, Bool.and_eq_true, decide_eq_true_eq] at accepted
    exact accepted.2
  used := by
    intro bytecode req _ _ keyCount program state measured _ loads initialises
    cases measured.symm.trans loads
    cases initialises
    rfl

/-- The default capacities, for a number of keys. -/
def defaultLumivm (keyCount : Nat) (someKeys : 0 < keyCount) :
    LumivmOptions where
  constCap := 512
  globalCap := 256
  keyVarCap := 128
  codeCap := 8192
  stackCap := 256
  keyCount := keyCount
  someKeyVars := by decide
  someKeys := someKeys

/-- The module before the first load. -/
def unloaded : LumiscriptStatics countingVm :=
  ⟨none, none, none, none, none, false⟩

/-- For one key, a script may have as many variables as there are cells. -/
theorem single_key_fits :
    ∃ after,
      lumiscriptLoad (defaultLumivm 1 (by decide)) countingVm unloaded
            [128] =
          (after, 0) ∧
        StorageFits (defaultLumivm 1 (by decide)) after :=
  ⟨_, rfl,
    (loaded_script_fits_iff (defaultLumivm 1 (by decide)) countingVm
      countingVm_handlesKeys unloaded _ [128] rfl).1.mpr rfl⟩

/-- For two keys, a script of 65 variables uses cell 129 of 128. -/
theorem loaded_script_writes_beyond :
    ¬ ∀ (options : LumivmOptions) (vm : LumiVm),
      vm.HandlesKeys →
        ∀ (before after : LumiscriptStatics vm) (bytecode : List UInt8),
          lumiscriptLoad options vm before bytecode = (after, 0) →
            KeyCellsInside options after := by
  intro always
  have inside :=
    always (defaultLumivm 2 (by decide)) countingVm countingVm_handlesKeys
      unloaded _ [65] rfl
  have last :=
    inside _ _ rfl rfl 129 (Finset.mem_range.mpr (by decide))
  exact absurd last (by decide)

end YkbFirmware.Backlight.KeyStorage
