import WhiteRabbitPtp.Lib.CheckedInt
import WhiteRabbitPtp.Lib.Codec
import WhiteRabbitPtp.Model.Minipc

/-!
# The arguments of a call

`minipc_call` up to where the request is sent, and how a server steps from one argument to the next.
The arguments are octets in memory, to which the client and the server refer by words. Where the
source writes past the packet, adds beyond an `int` or takes an argument that was not passed, a call
is undefined. Waiting for the reply is left out.
-/

namespace WhiteRabbitPtp

open CheckedInt Octets

/-! ### Data -/

/-- How the processor of client and server keeps its numbers in memory. -/
structure Host where
  int : Codec UInt32 4
  int64 : Codec UInt64 8

/-- A variable argument. A `double` is its octets, and a pointer what can be read from there on. -/
inductive VaArg
  | int (x : UInt32)
  | int64 (x : UInt64)
  | double (x : OctetString 8)
  | pointer (octets : List UInt8)

/-- `MINIPC_MAX_ARGUMENTS` -/
def minipcMaxArguments : ℕ := 256

/-- `MINIPC_GET_ANUM` of a size. -/
def minipcGetAnum (len : ℕ) : ℕ := (len + 3) / 4

/-- What becomes of an argument: the arguments in the packet, with the number of their words. -/
inductive Marshalled
  | done (args : Buffer) (narg : ℕ)
  | refused (errno : ℤ)
  | undefined

/-- What `minipc_call` does before it waits for the reply. -/
inductive CallStart
  | sent (request : MpcReqPacket) (size : ℕ)
  | refused (errno : ℤ)
  | undefined

/-! ### The client -/

/-- Write octets to a word of the packet. -/
def storeArg (args : Buffer) (narg : ℕ) (octets : List UInt8) (next : ℕ) : Marshalled :=
  if 4 * narg + octets.length ≤ 4 * minipcMaxArguments then
    .done (args.copyList (4 * narg) octets) next
  else .undefined

/-- `MINIPC_GET_ANUM(slen + 1)`, where `slen` is the length of a string as an `int`. -/
def stringAnum (slen : ℕ) : Option ℤ := do
  let size ← checked 32 ((slen : ℤ).bmod (2 ^ 32) + 1)
  let padded ← checked 32 (size + 3)
  return padded / 4

/-- The body of the loop of `minipc_call` for an argument other than the last one, which takes the
next variable argument where its type asks for one. -/
def marshalArg (host : Host) (word : UInt32) (val : Option VaArg) (args : Buffer) (narg : ℕ) :
    Marshalled :=
  let asize := minipcGetAsize word
  let next := narg + minipcGetAnum asize
  match minipcGetAtype word, val with
  | some .int, some (.int x) => storeArg args narg (List.ofFn (host.int.put x)) (narg + 1)
  | some .int64, some (.int64 x) => storeArg args narg (List.ofFn (host.int64.put x)) next
  | some .double, some (.double x) => storeArg args narg (List.ofFn x) next
  | some .string, some (.pointer octets) =>
    let sin := octets.takeWhile (· ≠ 0)
    -- `strlen` runs past the end of a string without a terminator.
    if sin.length = octets.length then .undefined
    else
      match stringAnum sin.length with
      | none => .undefined
      | some alen =>
        -- Only a string is checked against the number of words that are left.
        if (minipcMaxArguments : ℤ) ≤ narg + alen then .refused EPROTO
        else storeArg args narg (sin ++ [0]) (narg + alen).toNat
  | some .struct, some (.pointer octets) =>
    if octets.length < asize then .undefined else storeArg args narg (octets.take asize) next
  | some .int, _ | some .int64, _ | some .double, _ | some .string, _ | some .struct, _ =>
    .undefined
  | _, _ => .refused EPROTO

/-- The loop of `minipc_call`, which ends with an argument without a type. -/
def marshalArgs (host : Host) : List UInt32 → List VaArg → Buffer → ℕ → Marshalled
  | [], _, args, narg =>
    if minipcMaxArguments ≤ narg then .refused EPROTO else .done args narg
  | word :: words, vals, args, narg =>
    if minipcMaxArguments ≤ narg + minipcGetAnum (minipcGetAsize word) then .refused EPROTO
    else if minipcGetAtype word = some .none then .done args narg
    else
      match marshalArg host word vals.head? args narg with
      | .done args narg => marshalArgs host words vals.tail args narg
      | result => result

/-- `minipc_call`. The packet is one on the stack, or lies in shared memory with the arguments of
the call before. -/
def minipcCall (host : Host) (link : MpcLink) (pd : MinipcPd) (vals : List VaArg)
    (packet : Buffer) : CallStart :=
  if link.magic ≠ mpcMagic then .refused EINVAL
  else
    match marshalArgs host pd.args vals packet 0 with
    | .done args narg => .sent ⟨pd.name, args⟩ (minipcMaxName + 4 * narg)
    | .refused errno => .refused errno
    | .undefined => .undefined

/-! ### The server -/

/-- `minipc_get_next_arg` among arguments of some octets: none when it reads past them. -/
def minipcGetNextArg (args : Buffer) (len arg : ℕ) (atype : UInt32) : Option ℕ :=
  if minipcGetAtype atype ≠ some .string then
    some (arg + minipcGetAnum (minipcGetAsize atype))
  else
    (args.stringAt (4 * arg) (len - 4 * arg)).map fun s => arg + minipcGetAnum (s.length + 1)

end WhiteRabbitPtp
