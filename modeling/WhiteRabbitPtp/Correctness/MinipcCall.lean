import WhiteRabbitPtp.Model.MinipcCall
import Mathlib.Tactic.NormNum

/-!
# The arguments of a call

A server that steps through the arguments with the descriptor of the client finds the values that
were passed, as long as the lengths of the strings are numbers of type `int`. The packet is checked
for room with the length that an `int` makes of that of a string, so that a string can be too long
to be refused.

## Main definitions

* `ArgValue`, `HasType`: the values, and of which types they are.
* `walkArgs`: what a server finds.
* `ReadBack`: a call is refused because it does not fit, or the server finds what was passed.
* `LengthsFit`: the lengths of the strings are numbers of type `int`, or taken for ones too large.

## Main results

* `marshalArgs_meets`: arguments with such strings are refused or read back.
* `readBack_iff_lengthsFit`: these are the calls that are read back.
* `not_forall_readBack`: a string of 2 ^ 31 octets is written past the packet.
-/

namespace WhiteRabbitPtp

open CheckedInt Octets

/-! ### Types -/

theorem MinipcAt.code_lt (atype : MinipcAt) : atype.code.toNat < 2 ^ 16 := by
  cases atype <;> decide

theorem toNat_minipcArgEncode (atype : MinipcAt) {asize : UInt32} (h : asize.toNat < 2 ^ 16) :
    (minipcArgEncode atype asize).toNat = 2 ^ 16 * atype.code.toNat + asize.toNat := by
  have hcode := atype.code_lt
  have hshift : atype.code.toNat <<< 16 % 2 ^ 32 = atype.code.toNat <<< 16 := by
    apply Nat.mod_eq_of_lt
    rw [Nat.shiftLeft_eq]
    omega
  calc (minipcArgEncode atype asize).toNat
      = atype.code.toNat <<< 16 % 2 ^ 32 ||| asize.toNat := rfl
    _ = atype.code.toNat <<< 16 + asize.toNat := by
        rw [hshift, Nat.shiftLeft_add_eq_or_of_lt h]
    _ = 2 ^ 16 * atype.code.toNat + asize.toNat := by rw [Nat.shiftLeft_eq, Nat.mul_comm]

/-- A type is read as it was encoded. -/
theorem minipcGetAtype_encode (atype : MinipcAt) (asize : UInt32) (h : asize.toNat < 2 ^ 16) :
    minipcGetAtype (minipcArgEncode atype asize) = some atype := by
  have hcode : (minipcArgEncode atype asize >>> 16).toNat = atype.code.toNat := by
    calc (minipcArgEncode atype asize >>> 16).toNat
        = (minipcArgEncode atype asize).toNat >>> 16 := rfl
      _ = atype.code.toNat := by
          rw [toNat_minipcArgEncode atype h, Nat.shiftRight_eq_div_pow]
          omega
  unfold minipcGetAtype
  rw [hcode]
  cases atype <;> rfl

/-- A size is read as it was encoded. -/
theorem minipcGetAsize_encode (atype : MinipcAt) (asize : UInt32) (h : asize.toNat < 2 ^ 16) :
    minipcGetAsize (minipcArgEncode atype asize) = asize.toNat := by
  calc minipcGetAsize (minipcArgEncode atype asize)
      = (minipcArgEncode atype asize).toNat &&& (2 ^ 16 - 1) := rfl
    _ = asize.toNat := by
        rw [Nat.and_two_pow_sub_one_eq_mod, toNat_minipcArgEncode atype h]
        omega

/-! ### Values -/

/-- The value of an argument; a string without its terminating zero. -/
inductive ArgValue
  | int (x : UInt32)
  | int64 (x : UInt64)
  | double (x : OctetString 8)
  | string (s : List UInt8)
  | struct (octets : List UInt8)

namespace ArgValue

/-- What a caller passes. -/
def passed : ArgValue → VaArg
  | int x => .int x
  | int64 x => .int64 x
  | double x => .double x
  | string s => .pointer (s ++ [0])
  | struct octets => .pointer octets

/-- The number of octets of a value. -/
def size : ArgValue → ℕ
  | int _ => 4
  | int64 _ | double _ => 8
  | string s => s.length + 1
  | struct octets => octets.length

/-- The number of words of a value. -/
def words (v : ArgValue) : ℕ := minipcGetAnum v.size

@[simp]
theorem words_int (x : UInt32) : (int x).words = 1 := by
  simp [words, size, minipcGetAnum]

@[simp]
theorem words_int64 (x : UInt64) : (int64 x).words = 2 := by
  simp [words, size, minipcGetAnum]

@[simp]
theorem words_double (x : OctetString 8) : (double x).words = 2 := by
  simp [words, size, minipcGetAnum]

/-- The octets of a value. -/
def octets (host : Host) : ArgValue → List UInt8
  | int x => List.ofFn (host.int.put x)
  | int64 x => List.ofFn (host.int64.put x)
  | double x => List.ofFn x
  | string s => s ++ [0]
  | struct octets => octets

theorem length_octets (host : Host) (v : ArgValue) : (v.octets host).length = v.size := by
  cases v <;> simp [octets, size]

theorem size_le (v : ArgValue) : v.size ≤ 4 * v.words := by
  unfold words minipcGetAnum
  omega

end ArgValue

/-- The types of values, with sizes that a word has room for. That of a string says nothing about
its length. -/
inductive HasType : UInt32 → ArgValue → Prop
  | int (x : UInt32) : HasType (minipcArgEncode .int 4) (.int x)
  | int64 (x : UInt64) : HasType (minipcArgEncode .int64 8) (.int64 x)
  | double (x : OctetString 8) : HasType (minipcArgEncode .double 8) (.double x)
  | string (size : UInt16) {s : List UInt8} : 0 ∉ s →
      HasType (minipcArgEncode .string size.toUInt32) (.string s)
  | struct (size : UInt16) {octets : List UInt8} : octets.length = size.toNat →
      HasType (minipcArgEncode .struct size.toUInt32) (.struct octets)

section Server

/-- What a server finds at an argument of a type, among arguments of some octets: none when it reads
past them. -/
def readArg (host : Host) (args : Buffer) (len arg : ℕ) (atype : UInt32) : Option ArgValue :=
  let off := 4 * arg
  let asize := minipcGetAsize atype
  match minipcGetAtype atype with
  | some .int => if off + 4 ≤ len then some (.int (host.int.get (args.read off 4))) else none
  | some .int64 => if off + 8 ≤ len then some (.int64 (host.int64.get (args.read off 8))) else none
  | some .double => if off + 8 ≤ len then some (.double (args.read off 8)) else none
  | some .string => (args.stringAt off (len - off)).map .string
  | some .struct =>
    if off + asize ≤ len then some (.struct (List.ofFn (args.read off asize))) else none
  | _ => none

/-- What a server finds that steps from an argument to the next, and where it ends. -/
def walkArgs (host : Host) (args : Buffer) (len : ℕ) :
    ℕ → List UInt32 → Option (List ArgValue × ℕ)
  | arg, [] => some ([], arg)
  | arg, atype :: atypes => do
    let v ← readArg host args len arg atype
    let next ← minipcGetNextArg args len arg atype
    let (vs, last) ← walkArgs host args len next atypes
    return (v :: vs, last)

variable (host : Host) {args : Buffer} {len arg : ℕ} {atype : UInt32} {v : ArgValue}

/-- A server finds a value and the place behind it. -/
theorem readArg_eq (h : HasType atype v) (hat : args.HasAt (4 * arg) (v.octets host))
    (hlen : 4 * arg + v.size ≤ len) :
    readArg host args len arg atype = some v ∧
      minipcGetNextArg args len arg atype = some (arg + v.words) := by
  cases h with
  | int x =>
    have hatype := minipcGetAtype_encode .int 4 (by decide)
    have hasize := minipcGetAsize_encode .int 4 (by decide)
    simp only [readArg, minipcGetNextArg, hatype, hasize]
    exact ⟨(if_pos hlen).trans (by rw [hat.get_put]), rfl⟩
  | int64 x =>
    have hatype := minipcGetAtype_encode .int64 8 (by decide)
    have hasize := minipcGetAsize_encode .int64 8 (by decide)
    simp only [readArg, minipcGetNextArg, hatype, hasize]
    exact ⟨(if_pos hlen).trans (by rw [hat.get_put]), rfl⟩
  | double x =>
    have hatype := minipcGetAtype_encode .double 8 (by decide)
    have hasize := minipcGetAsize_encode .double 8 (by decide)
    simp only [readArg, minipcGetNextArg, hatype, hasize]
    exact ⟨(if_pos hlen).trans (by rw [hat.read]), rfl⟩
  | @string size s hs =>
    -- The size in the descriptor is ignored: a string ends with its zero octet.
    have hatype := minipcGetAtype_encode .string size.toUInt32 size.toNat_lt
    have hstring : args.stringAt (4 * arg) (len - 4 * arg) = some s :=
      hat.stringAt hs (by simp only [ArgValue.size] at hlen; omega)
    simp only [readArg, minipcGetNextArg, hatype, hstring]
    exact ⟨rfl, rfl⟩
  | @struct size octets hsize =>
    have hatype := minipcGetAtype_encode .struct size.toUInt32 size.toNat_lt
    have hasize := minipcGetAsize_encode .struct size.toUInt32 size.toNat_lt
    rw [UInt16.toNat_toUInt32, ← hsize] at hasize
    simp only [readArg, minipcGetNextArg, hatype, hasize]
    exact ⟨(if_pos hlen).trans (congrArg _ (congrArg _ hat.ofFn_read)), rfl⟩

end Server

section Client

/-- The length of a string is a number of type `int`, or what is taken for one leaves no room for
it. -/
def ArgValue.FitsInt (narg : ℕ) : ArgValue → Prop
  | .string s => s.length + 4 < 2 ^ 31 ∨
      ∃ alen ∈ stringAnum s.length, (minipcMaxArguments : ℤ) ≤ narg + alen
  | _ => True

theorem stringAnum_of_lt {slen : ℕ} (h : slen + 4 < 2 ^ 31) :
    stringAnum slen = some ((minipcGetAnum (slen + 1) : ℕ) : ℤ) := by
  have hslen : Fits 32 (slen : ℤ) := by
    constructor <;> omega
  have hsize : Fits 32 ((slen : ℤ) + 1) := by
    constructor <;> omega
  have hpadded : Fits 32 ((slen : ℤ) + 1 + 3) := by
    constructor <;> omega
  unfold stringAnum minipcGetAnum
  rw [bmod_of_fits (by omega) hslen, checked_of_fits hsize]
  rw [Option.bind_eq_bind, Option.bind_some, checked_of_fits hpadded]
  exact congrArg some (by omega)

variable (host : Host) {args : Buffer} {narg : ℕ} {word : UInt32} {v : ArgValue}

theorem storeArg_of_le {octets : List UInt8} {words : ℕ} (hoctets : octets.length ≤ 4 * words)
    (hroom : narg + words ≤ minipcMaxArguments) :
    storeArg args narg octets (narg + words) =
      .done (args.copyList (4 * narg) octets) (narg + words) :=
  if_pos (by omega)

/-- A string is written when the number of its words leaves room for it. -/
theorem marshalArg_string (size : UInt16) {s : List UInt8} (hs : 0 ∉ s) :
    marshalArg host (minipcArgEncode .string size.toUInt32) (some (.pointer (s ++ [0]))) args narg =
      match stringAnum s.length with
      | none => .undefined
      | some alen =>
        if (minipcMaxArguments : ℤ) ≤ narg + alen then .refused EPROTO
        else storeArg args narg (s ++ [0]) (narg + alen).toNat := by
  have hsin : (s ++ [0]).takeWhile (fun x => decide (x ≠ 0)) = s := by
    rw [List.takeWhile_append_of_pos fun x hx => by simpa using ne_of_mem_of_not_mem hx hs]
    simp
  have hend : ¬s.length = (s ++ [0]).length := by simp
  have hatype := minipcGetAtype_encode .string size.toUInt32 size.toNat_lt
  cases halen : stringAnum s.length with
  | none => simp only [marshalArg, hatype, hsin, if_neg hend, halen]
  | some alen => simp only [marshalArg, hatype, hsin, if_neg hend, halen]

/-- An argument that there is room for is written behind the others. -/
theorem marshalArg_eq (h : HasType word v)
    (hsize : narg + minipcGetAnum (minipcGetAsize word) < minipcMaxArguments)
    (hfits : v.FitsInt narg) (hroom : narg + v.words < minipcMaxArguments) :
    marshalArg host word (some v.passed) args narg =
      .done (args.copyList (4 * narg) (v.octets host)) (narg + v.words) := by
  have hstore : storeArg args narg (v.octets host) (narg + v.words) =
      .done (args.copyList (4 * narg) (v.octets host)) (narg + v.words) :=
    storeArg_of_le ((v.length_octets host).trans_le v.size_le) hroom.le
  cases h with
  | int x =>
    rw [← hstore, ArgValue.words_int]
    simp only [marshalArg, ArgValue.passed, minipcGetAtype_encode .int 4 (by decide)]
    rfl
  | int64 x =>
    rw [← hstore]
    simp only [marshalArg, ArgValue.passed, minipcGetAtype_encode .int64 8 (by decide),
      minipcGetAsize_encode .int64 8 (by decide)]
    rfl
  | double x =>
    rw [← hstore]
    simp only [marshalArg, ArgValue.passed, minipcGetAtype_encode .double 8 (by decide),
      minipcGetAsize_encode .double 8 (by decide)]
    rfl
  | @string size s hs =>
    -- A string for which there is room is short.
    have hlength : s.length + 4 < 2 ^ 31 := by
      have hle := (ArgValue.string s).size_le
      simp only [ArgValue.size] at hle
      unfold minipcMaxArguments at hroom
      omega
    have hcheck : ¬(minipcMaxArguments : ℤ) ≤ narg + (minipcGetAnum (s.length + 1) : ℕ) := by
      rw [← Nat.cast_add, Nat.cast_le]
      exact Nat.not_le.mpr hroom
    rw [ArgValue.passed, marshalArg_string host size hs, stringAnum_of_lt hlength, ← hstore]
    dsimp only
    rw [if_neg hcheck, ← Nat.cast_add, Int.toNat_natCast]
    rfl
  | @struct size octets hlength =>
    have hasize := minipcGetAsize_encode .struct size.toUInt32 size.toNat_lt
    rw [UInt16.toNat_toUInt32, ← hlength] at hasize
    rw [← hstore]
    simp only [marshalArg, ArgValue.passed, hasize,
      minipcGetAtype_encode .struct size.toUInt32 size.toNat_lt, if_neg (Nat.lt_irrefl _),
      List.take_length]
    rfl

/-- The words that a descriptor says are those of the value, unless it is a string. -/
theorem HasType.anum_eq (h : HasType word v) (hv : ∀ s, v ≠ .string s) :
    minipcGetAnum (minipcGetAsize word) = v.words := by
  cases h with
  | int x => rw [minipcGetAsize_encode .int 4 (by decide)]; rfl
  | int64 x => rw [minipcGetAsize_encode .int64 8 (by decide)]; rfl
  | double x => rw [minipcGetAsize_encode .double 8 (by decide)]; rfl
  | @string size s hs => exact absurd rfl (hv s)
  | @struct size octets hlength =>
    rw [minipcGetAsize_encode .struct size.toUInt32 size.toNat_lt, UInt16.toNat_toUInt32, ← hlength]
    rfl

theorem HasType.atype_ne (h : HasType word v) : minipcGetAtype word ≠ some .none := by
  cases h with
  | int x => simp [minipcGetAtype_encode .int 4 (by decide)]
  | int64 x => simp [minipcGetAtype_encode .int64 8 (by decide)]
  | double x => simp [minipcGetAtype_encode .double 8 (by decide)]
  | string size hs => simp [minipcGetAtype_encode .string size.toUInt32 size.toNat_lt]
  | struct size hlength => simp [minipcGetAtype_encode .struct size.toUInt32 size.toNat_lt]

/-- A string that there is no room for is refused. -/
theorem marshalArg_refused (h : HasType word v)
    (hsize : narg + minipcGetAnum (minipcGetAsize word) < minipcMaxArguments)
    (hfits : v.FitsInt narg) (hfull : minipcMaxArguments ≤ narg + v.words) :
    marshalArg host word (some v.passed) args narg = .refused EPROTO := by
  cases v with
  | string s =>
    cases h with
    | string size hs =>
      rw [ArgValue.passed, marshalArg_string host size hs]
      rcases hfits with hlt | ⟨alen, halen, hle⟩
      · rw [stringAnum_of_lt hlt]
        refine if_pos ?_
        rw [← Nat.cast_add, Nat.cast_le]
        exact hfull
      · rw [halen]
        exact if_pos hle
  | _ =>
    rw [h.anum_eq fun s => nofun] at hsize
    exact absurd hsize (Nat.not_lt.mpr hfull)

/-- A string whose length is no `int` is written past the packet, unless it is refused. -/
theorem marshalArg_undefined (h : HasType word v) (hfits : ¬v.FitsInt narg) :
    marshalArg host word (some v.passed) args narg = .undefined := by
  cases v with
  | string s =>
    cases h with
    | string size hs =>
      rw [ArgValue.passed, marshalArg_string host size hs]
      obtain ⟨hlong, hroom⟩ := not_or.mp hfits
      cases halen : stringAnum s.length with
      | none => rfl
      | some alen =>
        dsimp only
        rw [if_neg fun hle => hroom ⟨alen, halen, hle⟩]
        -- It has more octets than the packet.
        refine if_neg ?_
        rw [List.length_append, List.length_singleton]
        unfold minipcMaxArguments
        omega
  | _ => exact absurd trivial hfits

/-! ### All arguments -/

/-- The length of each string that is reached is a number of type `int`, or what is taken for one
leaves no room for it. -/
def LengthsFit : ℕ → List UInt32 → List ArgValue → Prop
  | narg, word :: words, v :: vs =>
    narg + minipcGetAnum (minipcGetAsize word) < minipcMaxArguments →
      v.FitsInt narg ∧ (narg + v.words < minipcMaxArguments → LengthsFit (narg + v.words) words vs)
  | _, _, _ => True

/-- Some argument does not end before the last word, by itself or by the size in its descriptor. -/
def DoesNotFit : ℕ → List UInt32 → List ArgValue → Prop
  | narg, word :: words, v :: vs =>
    minipcMaxArguments ≤ narg + minipcGetAnum (minipcGetAsize word) ∨
      minipcMaxArguments ≤ narg + v.words ∨ DoesNotFit (narg + v.words) words vs
  | _, _, _ => False

/-- Arguments behind those that are in the packet are refused because they do not fit, or a server
finds them in what is sent. -/
def Marshalled.Meets (host : Host) (args : Buffer) (narg : ℕ) (words : List UInt32)
    (vals : List ArgValue) : Marshalled → Prop
  | .done sent last => narg ≤ last ∧ last < minipcMaxArguments ∧
      (∀ k < 4 * narg, sent k = args k) ∧
      ∀ received : Buffer, (∀ k < 4 * last, received k = sent k) →
        walkArgs host received (4 * last) narg words = some (vals, last)
  | .refused errno => errno = EPROTO ∧ DoesNotFit narg words vals
  | .undefined => False

variable {words : List UInt32} {vals : List ArgValue}

/-- An argument that was written is found before the others. -/
theorem Marshalled.Meets.cons (h : HasType word v) {result : Marshalled}
    (hmeets : result.Meets host (args.copyList (4 * narg) (v.octets host)) (narg + v.words) words
      vals) :
    result.Meets host args narg (word :: words) (v :: vals) := by
  cases result with
  | done sent last =>
    obtain ⟨hle, hlast, hkept, hwalk⟩ := hmeets
    have hsize := v.size_le
    have hlength := v.length_octets host
    refine ⟨by omega, hlast, fun k hk => ?_, fun received hreceived => ?_⟩
    · rw [hkept k (by omega), Buffer.copyList_of_not_mem (by omega)]
    · have hat : received.HasAt (4 * narg) (v.octets host) := by
        -- What was written later lies behind the words of this argument.
        refine (Buffer.hasAt_copyList args _ _).congr fun k _ hk => ?_
        rw [hreceived k (by omega), hkept k (by omega)]
      obtain ⟨hread, hnext⟩ := readArg_eq host h hat (show _ ≤ 4 * last by omega)
      simp [walkArgs, hread, hnext, hwalk received hreceived]
  | refused errno => exact ⟨hmeets.1, .inr (.inr hmeets.2)⟩
  | undefined => exact hmeets

/-- Arguments with such strings are refused because they do not fit, or read back. -/
theorem marshalArgs_meets (h : List.Forall₂ HasType words vals) (hnarg : narg < minipcMaxArguments)
    (hfit : LengthsFit narg words vals) :
    (marshalArgs host words (vals.map ArgValue.passed) args narg).Meets host args narg words
      vals := by
  -- By induction on the arguments; those before are in the packet already.
  induction h generalizing args narg with
  | nil =>
    rw [List.map_nil, marshalArgs, if_neg (Nat.not_le.mpr hnarg)]
    exact ⟨Nat.le_refl _, hnarg, fun _ _ => rfl, fun _ _ => rfl⟩
  | @cons word v words vals hword _ ih =>
    rw [List.map_cons, marshalArgs, List.head?_cons, List.tail_cons]
    by_cases hsize : minipcMaxArguments ≤ narg + minipcGetAnum (minipcGetAsize word)
    · rw [if_pos hsize]
      exact ⟨rfl, .inl hsize⟩
    · have hsize' := Nat.not_le.mp hsize
      obtain ⟨hfits, hrest⟩ := hfit hsize'
      rw [if_neg hsize, if_neg hword.atype_ne]
      by_cases hroom : narg + v.words < minipcMaxArguments
      · rw [marshalArg_eq host hword hsize' hfits hroom]
        exact .cons host hword (ih hroom (hrest hroom))
      · have hfull := Nat.not_lt.mp hroom
        rw [marshalArg_refused host hword hsize' hfits hfull]
        exact ⟨rfl, .inr (.inl hfull)⟩

/-- Arguments with another string are written past the packet. -/
theorem marshalArgs_undefined (h : List.Forall₂ HasType words vals)
    (hfit : ¬LengthsFit narg words vals) :
    marshalArgs host words (vals.map ArgValue.passed) args narg = .undefined := by
  induction h generalizing args narg with
  | nil => exact absurd trivial hfit
  | @cons word v words vals hword _ ih =>
    obtain ⟨hsize, hrest⟩ := Classical.not_imp.mp hfit
    rw [List.map_cons, marshalArgs, List.head?_cons, List.tail_cons, if_neg (Nat.not_le.mpr hsize),
      if_neg hword.atype_ne]
    by_cases hfits : v.FitsInt narg
    · obtain ⟨hroom, htail⟩ := Classical.not_imp.mp fun himp => hrest ⟨hfits, himp⟩
      rw [marshalArg_eq host hword hsize hfits hroom]
      exact ih htail
    · rw [marshalArg_undefined host hword hfits]

end Client

/-! ### Calls -/

/-- A call is refused with `EPROTO` because its arguments do not fit, or a request is sent in which
a server finds the values one after the other, whatever lies behind the words that it received. -/
def CallStart.ReadBack (host : Host) (pd : MinipcPd) (vals : List ArgValue) : CallStart → Prop
  | .sent request size => ∃ narg < minipcMaxArguments, size = minipcMaxName + 4 * narg ∧
      request.name = pd.name ∧
      ∀ received : Buffer, (∀ k < 4 * narg, received k = request.args k) →
        walkArgs host received (4 * narg) 0 pd.args = some (vals, narg)
  | .refused errno => errno = EPROTO ∧ DoesNotFit 0 pd.args vals
  | .undefined => False

theorem minipcCall_eq (host : Host) {link : MpcLink} (hlink : link.magic = mpcMagic) (pd : MinipcPd)
    (vals : List VaArg) (packet : Buffer) : minipcCall host link pd vals packet =
      match marshalArgs host pd.args vals packet 0 with
      | .done args narg => .sent ⟨pd.name, args⟩ (minipcMaxName + 4 * narg)
      | .refused errno => .refused errno
      | .undefined => .undefined := if_neg (not_not.mpr hlink)

/-- For every list of arguments and values of their types, `minipc_call` refuses the call because it
does not fit, or sends a request in which a server that steps from one argument to the next finds
these values in the words that were sent, exactly when the lengths of the strings are numbers of
type `int` or are taken for ones that leave no room. -/
theorem readBack_iff_lengthsFit (host : Host) {link : MpcLink} (hlink : link.magic = mpcMagic)
    {pd : MinipcPd} {vals : List ArgValue} (htypes : List.Forall₂ HasType pd.args vals)
    (packet : Buffer) :
    (minipcCall host link pd (vals.map ArgValue.passed) packet).ReadBack host pd vals ↔
      LengthsFit 0 pd.args vals := by
  rw [minipcCall_eq host hlink]
  by_cases hfit : LengthsFit 0 pd.args vals
  · have hmeets : (marshalArgs host pd.args (vals.map ArgValue.passed) packet 0).Meets host packet 0
        pd.args vals := marshalArgs_meets host htypes (by decide) hfit
    refine iff_of_true ?_ hfit
    generalize marshalArgs host pd.args (vals.map ArgValue.passed) packet 0 = result at hmeets ⊢
    cases result with
    | done args narg =>
      obtain ⟨-, hlast, -, hwalk⟩ := hmeets
      exact ⟨narg, hlast, rfl, rfl, hwalk⟩
    | refused errno => exact hmeets
    | undefined => exact hmeets
  · rw [marshalArgs_undefined host htypes hfit]
    exact iff_of_false id hfit

/-! ### Two calls -/

/-- A processor that keeps the most significant octets first. -/
def smallHost : Host where
  int := .bigEndian32
  int64 := .bigEndian64

def smallLink : MpcLink where
  fd := 3
  magic := mpcMagic
  flags := mpcFlagClient
  nextl := none
  flist := none
  logf := false

/-- A descriptor of a function with arguments of some types. -/
def callPd (args : List UInt32) : MinipcPd where
  f _ := .done []
  name _ := 0
  retval := minipcArgEncode .int 4
  args

/-- A number, a string of three octets, a structure of two and another number are read back. -/
theorem readBack_iff_lengthsFit_callPd :
    let pd := callPd [minipcArgEncode .int 4, minipcArgEncode .string 8, minipcArgEncode .struct 2,
      minipcArgEncode .int64 8]
    let vals : List ArgValue := [.int 7, .string [102, 111, 111], .struct [1, 2], .int64 5]
    (minipcCall smallHost smallLink pd (vals.map ArgValue.passed) fun _ => 0).ReadBack smallHost pd
      vals :=
  (readBack_iff_lengthsFit smallHost rfl
    (.cons (.int 7) (.cons (.string 8 (by decide)) (.cons (.struct 2 rfl) (.cons (.int64 5) .nil))))
    _).mpr fun _ => ⟨trivial, fun _ _ => ⟨.inl (by decide), fun _ _ => ⟨trivial, fun _ _ =>
      ⟨trivial, fun _ => trivial⟩⟩⟩⟩

/-- The length of a string of 2 ^ 31 octets is taken for a negative number. -/
theorem not_fitsInt {s : List UInt8} (hlength : s.length = 2 ^ 31) :
    ¬(ArgValue.string s).FitsInt 0 := by
  have hanum : stringAnum s.length = some (-536870911) := by
    rw [hlength]
    decide +kernel
  rintro (hlt | ⟨alen, halen, hle⟩)
  · rw [hlength] at hlt
    exact absurd hlt (by decide)
  · rw [hanum] at halen
    cases halen
    exact absurd hle (by decide)

/-- A string of 2 ^ 31 octets is written past the packet. -/
theorem not_forall_readBack : ¬∀ (host : Host) (link : MpcLink) (pd : MinipcPd)
    (vals : List ArgValue) (packet : Buffer), link.magic = mpcMagic →
    List.Forall₂ HasType pd.args vals →
    (minipcCall host link pd (vals.map ArgValue.passed) packet).ReadBack host pd vals := by
  intro h
  obtain ⟨s, hs, hlength⟩ : ∃ s : List UInt8, 0 ∉ s ∧ s.length = 2 ^ 31 :=
    ⟨List.replicate (2 ^ 31) 97, fun hmem => absurd (List.eq_of_mem_replicate hmem) (by decide),
      List.length_replicate⟩
  have htypes : List.Forall₂ HasType (callPd [minipcArgEncode .string 8]).args [.string s] :=
    .cons (.string 8 hs) .nil
  have hundefined : marshalArgs smallHost (callPd [minipcArgEncode .string 8]).args
      ([ArgValue.string s].map ArgValue.passed) (fun _ => 0) 0 = .undefined :=
    marshalArgs_undefined smallHost htypes fun hfit => not_fitsInt hlength (hfit (by decide)).1
  have hread := h smallHost smallLink (callPd [minipcArgEncode .string 8]) [.string s] (fun _ => 0)
    rfl htypes
  rwa [minipcCall_eq smallHost rfl, hundefined] at hread

end WhiteRabbitPtp
