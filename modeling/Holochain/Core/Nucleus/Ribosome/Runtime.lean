import Holochain.Core.Context

/-!
The execution host's side of the memory boundary (`nucleus/ribosome/runtime.rs`).

One 64-bit word crosses the boundary: success, a failure code, or an allocation
(`RibosomeEncodedValue`), an allocation being an offset and a length in the module's linear
memory (`WasmAllocation`). The word's layout and the allocator are not under `src/`; they follow
the spec (§4.3): zero is success, a failure code sits in the high 32 bits over zero low bits,
and an allocation is its offset in the high and its length, never zero, in the low 32 bits. So
an allocation's word reads back as that allocation (`ofBits_encode`, `tryFrom_encode`), a
failure word as its code (`ofBits_failure`), and bytes written through the allocator read back
(`read_write`).

`load_json_string_from_args` reads its argument with `assert_eq!`, `panic!` and two `unwrap`s:
it panics on a failure word, on a word that is no allocation and on bytes that are not UTF-8
(`loadJsonStringFromArgs_encode`). `store_as_json_string` answers the `Unspecified` code and
changes nothing when the text and a zero byte do not fit above the top of the allocation stack,
and otherwise the word of an allocation holding them (`storeAsJsonString_reads_back`);
`store_result` always answers a word (`storeResult_ok`).
-/

namespace Holochain

/-! ## The boundary word -/

/-- `RibosomeErrorCode`, with the codes the modelled host functions return. -/
inductive RibosomeErrorCode where
  | unspecified
  | argumentDeserializationFailed
  deriving DecidableEq, Repr

/-- Modelled from the spec: the number `N` of "failure code N" (the table is not under
`src/`). -/
def RibosomeErrorCode.code : RibosomeErrorCode → Nat
  | .unspecified => 1
  | .argumentDeserializationFailed => 2

/-- `RibosomeEncodedValue`: the three readings of a word. -/
inductive RibosomeEncodedValue where
  | success
  | failure (code : Nat)
  | allocation (bits : UInt64)
  deriving DecidableEq, Repr

/-- Modelled from the spec: `RibosomeEncodedValue::from(bits)`. -/
def RibosomeEncodedValue.ofBits (bits : UInt64) : RibosomeEncodedValue :=
  if bits.toNat = 0 then .success
  else if bits.toNat % 2 ^ 32 = 0 then .failure (bits.toNat / 2 ^ 32)
  else .allocation bits

/-- Modelled from the spec: the word of an encoded value. -/
def RibosomeEncodedValue.toBits : RibosomeEncodedValue → UInt64
  | .success => 0
  | .failure code => .ofNat (code * 2 ^ 32)
  | .allocation bits => bits

/-- `WasmAllocation`: a nonempty range of the 32-bit linear memory. -/
structure WasmAllocation where
  offset : Nat
  length : Nat
  length_pos : 0 < length
  fits : offset + length < 2 ^ 32
  deriving DecidableEq

inductive AllocationError where
  | outOfBounds
  | zeroLength
  deriving DecidableEq, Repr

/-- The `Debug` text of an `AllocationError`. -/
def AllocationError.debug : AllocationError → String
  | .outOfBounds => "OutOfBounds"
  | .zeroLength => "ZeroLength"

/-- Modelled from the spec: `WasmAllocation::new` refuses an empty range and a range past the
32-bit memory. -/
def WasmAllocation.new (offset length : Nat) : Except AllocationError WasmAllocation :=
  if h : length = 0 then .error .zeroLength
  else if h' : offset + length < 2 ^ 32 then .ok ⟨offset, length, Nat.pos_of_ne_zero h, h'⟩
  else .error .outOfBounds

/-- Modelled from the spec: the word of an allocation, its offset high and its length low. -/
def WasmAllocation.encode (a : WasmAllocation) : UInt64 := .ofNat (a.offset * 2 ^ 32 + a.length)

/-- Modelled from the spec: `WasmAllocation::try_from` a word. -/
def WasmAllocation.tryFrom (bits : UInt64) : Except AllocationError WasmAllocation :=
  WasmAllocation.new (bits.toNat / 2 ^ 32) (bits.toNat % 2 ^ 32)

theorem WasmAllocation.encode_toNat (a : WasmAllocation) :
    a.encode.toNat = a.offset * 2 ^ 32 + a.length :=
  UInt64.toNat_ofNat_of_lt (by have := a.fits; simp only [UInt64.size]; omega)

theorem RibosomeEncodedValue.ofBits_encode (a : WasmAllocation) :
    ofBits a.encode = .allocation a.encode := by
  have := a.length_pos
  have := a.fits
  rw [ofBits, WasmAllocation.encode_toNat, if_neg (by omega), if_neg (by omega)]

theorem RibosomeEncodedValue.ofBits_failure (c : RibosomeErrorCode) :
    ofBits (failure c.code).toBits = .failure c.code := by
  cases c <;> rfl

theorem WasmAllocation.tryFrom_encode (a : WasmAllocation) : tryFrom a.encode = .ok a := by
  obtain ⟨offset, length, hpos, hfits⟩ := a
  rw [tryFrom, encode_toNat, WasmAllocation.new]
  dsimp only
  rw [dif_neg (by omega), dif_pos (by omega)]
  congr 2 <;> omega

/-! ## Linear memory -/

/-- `WasmPageManager`: the module's linear memory and the top of its allocation stack. -/
structure WasmPageManager where
  memory : List UInt8
  top : Nat
  deriving DecidableEq, Repr

/-- Modelled from the spec: `WasmPageManager::read` copies the allocation's bytes out; an
allocation past the memory ends the call (the text is not under `src/`). -/
def WasmPageManager.read (m : WasmPageManager) (a : WasmAllocation) : Except Panic (List UInt8) :=
  if a.offset + a.length ≤ m.memory.length then .ok ((m.memory.drop a.offset).take a.length)
  else .error ⟨"allocation out of the memory bounds"⟩

/-- Modelled from the spec: `WasmPageManager::write` takes a fresh allocation on top of the
stack and writes the bytes there; an allocation that does not fit the memory fails. -/
def WasmPageManager.write (m : WasmPageManager) (bytes : List UInt8) :
    Except AllocationError (WasmAllocation × WasmPageManager) := do
  let a ← WasmAllocation.new m.top bytes.length
  if a.offset + a.length ≤ m.memory.length then
    pure (a, ⟨m.memory.take a.offset ++ bytes ++ m.memory.drop (a.offset + a.length),
      a.offset + a.length⟩)
  else throw .outOfBounds

theorem WasmPageManager.write_ok {m m' : WasmPageManager} {bytes : List UInt8}
    {a : WasmAllocation} (h : m.write bytes = .ok (a, m')) :
    a.offset = m.top ∧ a.length = bytes.length ∧ a.offset + a.length ≤ m.memory.length ∧
      m' = ⟨m.memory.take a.offset ++ bytes ++ m.memory.drop (a.offset + a.length),
        a.offset + a.length⟩ := by
  obtain ⟨a₀, hn, h⟩ := Except.bind_eq_ok.mp h
  unfold WasmAllocation.new at hn
  split at hn; · cases hn
  split at hn <;> cases hn
  split at h
  · cases h; exact ⟨rfl, rfl, ‹_›, rfl⟩
  · cases h

theorem WasmPageManager.write_isOk (m : WasmPageManager) {bytes : List UInt8} (h0 : bytes ≠ []) :
    (∃ p, m.write bytes = .ok p) ↔
      m.top + bytes.length < 2 ^ 32 ∧ m.top + bytes.length ≤ m.memory.length := by
  constructor
  · rintro ⟨⟨a, m'⟩, h⟩
    obtain ⟨ho, hl, hle, -⟩ := write_ok h
    have := a.fits
    omega
  · rintro ⟨h32, hle⟩
    unfold write WasmAllocation.new
    rw [dif_neg (by simpa using h0), dif_pos h32]
    exact ⟨_, by simp only [bind, Except.bind, if_pos hle]; rfl⟩

theorem WasmPageManager.read_write {m m' : WasmPageManager} {bytes : List UInt8}
    {a : WasmAllocation} (h : m.write bytes = .ok (a, m')) : m'.read a = .ok bytes := by
  obtain ⟨-, hlen, hle, rfl⟩ := write_ok h
  have htake : (m.memory.take a.offset).length = a.offset := by simp; omega
  simp only [read, List.length_append, htake, List.length_drop, hlen, List.append_assoc,
    List.drop_left' htake, List.take_left' rfl]
  rw [if_pos (by omega)]

/-! ## Reading an argument and storing a result -/

/-- `WasmCallData`: a zome call carries the context its host functions act in. -/
inductive WasmCallData where
  | zomeCall (context : Context)
  | directCall (name : String)
  deriving DecidableEq, Repr

structure Runtime where
  memoryManager : WasmPageManager
  data : WasmCallData
  deriving DecidableEq, Repr

/-- `wasmi::Trap`, with the kind the modelled code raises. -/
inductive Trap where
  | unreachable
  deriving DecidableEq, Repr

/-- `ZomeApiResult`: a trap, or the word returned as `RuntimeValue::I64`. -/
abbrev ZomeApiResult := Except Trap (Option UInt64)

/-- `Runtime::zome_call_data`: the context of a zome call; a direct call traps. -/
def Runtime.zomeCallData (rt : Runtime) : Except Trap Context :=
  match rt.data with
  | .zomeCall context => .ok context
  | .directCall _ => .error .unreachable

/-- `ribosome_error_code!`: return the failure word of a code. -/
def ribosomeErrorCode (c : RibosomeErrorCode) : ZomeApiResult :=
  .ok (some (RibosomeEncodedValue.failure c.code).toBits)

/-- `Runtime::load_json_string_from_args`. A `FromUtf8Error` is shown by its type name. -/
def Runtime.loadJsonStringFromArgs (rt : Runtime) (args : List UInt64) : Except Panic String :=
  match args with
  | [encoded] =>
    match RibosomeEncodedValue.ofBits encoded with
    | .success => .ok "null"
    | .failure _ => .error ⟨"received error code instead of valid encoded allocation"⟩
    | .allocation bits => do
      let allocation ← (WasmAllocation.tryFrom bits).mapError fun e => .unwrap e.debug
      let binArg ← rt.memoryManager.read allocation
      match String.fromUTF8? ⟨binArg.toArray⟩ with
      | some s => .ok s
      | none => .error (.unwrap "FromUtf8Error")
  | _ => .error ⟨"assertion failed: `(left == right)`\n  left: `1`,\n right: `" ++
      toString args.length ++ "`"⟩

theorem Runtime.loadJsonStringFromArgs_encode (rt : Runtime) (a : WasmAllocation)
    (h : a.offset + a.length ≤ rt.memoryManager.memory.length) :
    rt.loadJsonStringFromArgs [a.encode] =
      match String.fromUTF8? ⟨((rt.memoryManager.memory.drop a.offset).take a.length).toArray⟩ with
      | some s => .ok s
      | none => .error (.unwrap "FromUtf8Error") := by
  simp only [loadJsonStringFromArgs, RibosomeEncodedValue.ofBits_encode,
    WasmAllocation.tryFrom_encode, Except.mapError, bind, Except.bind, WasmPageManager.read,
    if_pos h]

theorem Runtime.loadJsonStringFromArgs_of_utf8 (rt : Runtime) (a : WasmAllocation)
    (h : a.offset + a.length ≤ rt.memoryManager.memory.length) {s : String}
    (hutf : String.fromUTF8? ⟨((rt.memoryManager.memory.drop a.offset).take a.length).toArray⟩ =
      some s) :
    rt.loadJsonStringFromArgs [a.encode] = .ok s := by
  rw [rt.loadJsonStringFromArgs_encode a h, hutf]

theorem validateUTF8_loop_of_decode {a : ByteArray} {i j : Nat} {c : Char} (hi : i < a.size)
    (hc : String.utf8DecodeChar? a i = some c) (hj : i + c.utf8Size = j) :
    String.validateUTF8.loop a i = String.validateUTF8.loop a j := by
  rw [String.validateUTF8.loop]; simp [hi, hc, hj]

theorem fromUTF8_loop_of_decode {a : ByteArray} {i j : Nat} {c : Char} {acc : String}
    (hi : i < a.size) (hc : String.utf8DecodeChar? a i = some c) (hj : i + c.utf8Size = j) :
    String.fromUTF8.loop a i acc = String.fromUTF8.loop a j (acc.push c) := by
  rw [String.fromUTF8.loop]; simp [hi, hc, hj]

structure ZomeApiInternalResult where
  ok : Bool
  value : String
  error : String
  deriving DecidableEq, Repr

/-- `ZomeApiInternalResult::success`. -/
def ZomeApiInternalResult.success (value : String) : ZomeApiInternalResult := ⟨true, value, "null"⟩

/-- `ZomeApiInternalResult::failure`. -/
def ZomeApiInternalResult.failure (error : String) : ZomeApiInternalResult := ⟨false, "null", error⟩

/-- A character inside a JSON string literal, as serde writes it. -/
def jsonEscape (c : Char) : String :=
  match c.toNat with
  | 34 => "\\\""
  | 92 => "\\\\"
  | 8 => "\\b"
  | 12 => "\\f"
  | 10 => "\\n"
  | 13 => "\\r"
  | 9 => "\\t"
  | n => if n < 32 then "\\u00" ++ (Nat.toDigits 16 (n / 16) ++ Nat.toDigits 16 (n % 16)).asString
    else c.toString

/-- A JSON string literal. -/
def jsonString (s : String) : String := "\"" ++ String.join (s.toList.map jsonEscape) ++ "\""

/-- The JSON of a `ZomeApiInternalResult`. -/
def ZomeApiInternalResult.toJson (r : ZomeApiInternalResult) : String :=
  "\x7b\"ok\":" ++ toString r.ok ++ ",\"value\":" ++ jsonString r.value ++ ",\"error\":" ++
    jsonString r.error ++ "\x7d"

/-- `Runtime::store_as_json_string`: the text and a zero byte written through a fresh
allocation, whose word is answered; a failed allocation answers `Unspecified`. -/
def Runtime.storeAsJsonString (rt : Runtime) (j : String) : ZomeApiResult × Runtime :=
  match rt.memoryManager.write (j.toUTF8.toList ++ [0]) with
  | .error _ => (ribosomeErrorCode .unspecified, rt)
  | .ok (a, mm) => (.ok (some (RibosomeEncodedValue.allocation a.encode).toBits),
      { rt with memoryManager := mm })

/-- `Runtime::store_result`: the result as a `ZomeApiInternalResult`, stored as JSON; a
`HolochainError` is shown by its `Display`. -/
def Runtime.storeResult (rt : Runtime) (result : Except HolochainError Unit) :
    ZomeApiResult × Runtime :=
  rt.storeAsJsonString <| match result with
    | .ok () => (ZomeApiInternalResult.success "null").toJson
    | .error e => (ZomeApiInternalResult.failure e.display).toJson

/-- The host's half of the boundary contract: when the text and its terminating zero do not fit
above the top of the allocation stack, `store_as_json_string` answers the `Unspecified` code and
leaves the runtime as it was; when they fit, it answers the word of an allocation at the top of
the stack from which the new memory reads back exactly those bytes, the call data unchanged. -/
theorem storeAsJsonString_reads_back (rt : Runtime) (j : String) :
    let bytes := j.toUTF8.toList ++ [0]
    let fits := rt.memoryManager.top + bytes.length < 2 ^ 32 ∧
      rt.memoryManager.top + bytes.length ≤ rt.memoryManager.memory.length
    (¬ fits → rt.storeAsJsonString j = (ribosomeErrorCode .unspecified, rt)) ∧
    (fits → ∃ a : WasmAllocation, a.offset = rt.memoryManager.top ∧
      (rt.storeAsJsonString j).1 = .ok (some a.encode) ∧
      (rt.storeAsJsonString j).2.memoryManager.read a = .ok bytes ∧
      (rt.storeAsJsonString j).2.data = rt.data) := by
  intro bytes fits
  have hw := @WasmPageManager.write_isOk rt.memoryManager bytes (by simp [bytes])
  unfold Runtime.storeAsJsonString
  refine ⟨fun hf => ?_, fun hf => ?_⟩
  · split
    · rfl
    · exact absurd (hw.mp ⟨_, ‹_›⟩) hf
  · obtain ⟨⟨a, mm⟩, h⟩ := hw.mpr hf
    rw [h]
    exact ⟨a, (WasmPageManager.write_ok h).1, rfl, WasmPageManager.read_write h, rfl⟩

theorem Runtime.storeResult_of_full (rt : Runtime) (result : Except HolochainError Unit)
    (h : rt.memoryManager.memory.length ≤ rt.memoryManager.top) :
    rt.storeResult result = (ribosomeErrorCode .unspecified, rt) := by
  unfold storeResult storeAsJsonString
  split
  · rfl
  · rename_i a mm hw
    have := ((WasmPageManager.write_isOk _ (by simp)).mp ⟨_, hw⟩).2
    simp only [List.length_append, List.length_singleton] at this
    omega

theorem Runtime.storeResult_ok (rt : Runtime) (result : Except HolochainError Unit) :
    ∃ w, (rt.storeResult result).1 = .ok (some w) := by
  unfold storeResult storeAsJsonString
  split <;> exact ⟨_, rfl⟩

end Holochain
