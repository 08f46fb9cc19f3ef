import LedgerEvm.Bytes

namespace LedgerEvm

/-!
# Instructions

A byte of code is an instruction or is undefined.  The families that differ only
by a number (pushes, duplications, exchanges and logs) are one constructor each.
-/

/-- The generations of the instruction set, each containing the earlier ones. -/
inductive Spec where
  | london
  | paris
  | shanghai
  | cancun
  deriving Repr, DecidableEq

namespace Spec

/-- The place of a generation in the order of introduction. -/
def rank : Spec → Nat
  | .london => 0
  | .paris => 1
  | .shanghai => 2
  | .cancun => 3

/-- Whether a generation contains what another introduced. -/
def includes (current introduced : Spec) : Bool :=
  decide (introduced.rank ≤ current.rank)

/-- Whether the block's random value can be read. -/
def hasRandomValue (spec : Spec) : Bool :=
  spec.includes .paris

/-- Whether the size of init code is limited and charged. -/
def limitsInitCode (spec : Spec) : Bool :=
  spec.includes .shanghai

end Spec

/-- The instructions of the machine. -/
inductive Instruction where
  | stop
  | add
  | mul
  | sub
  | div
  | signedDiv
  | mod
  | signedMod
  | addMod
  | mulMod
  | pow
  | signExtend
  | less
  | greater
  | signedLess
  | signedGreater
  | equal
  | isZero
  | bitAnd
  | bitOr
  | bitXor
  | bitNot
  | byte
  | shiftLeft
  | shiftRight
  | arithmeticShiftRight
  | keccak
  | address
  | balance
  | origin
  | caller
  | callValue
  | callDataLoad
  | callDataSize
  | callDataCopy
  | codeSize
  | codeCopy
  | gasPrice
  | extCodeSize
  | extCodeCopy
  | returnDataSize
  | returnDataCopy
  | extCodeHash
  | blockHash
  | coinbase
  | timestamp
  | number
  | prevRandao
  | gasLimit
  | chainId
  | selfBalance
  | baseFee
  | blobHash
  | blobBaseFee
  | pop
  | memoryLoad
  | memoryStore
  | memoryStoreByte
  | storageLoad
  | storageStore
  | jump
  | jumpIf
  | position
  | memorySize
  | gas
  | jumpDest
  | transientLoad
  | transientStore
  | memoryCopy
  | push (size : Fin 33)
  | dup (depth : Fin 16)
  | swap (depth : Fin 16)
  | log (topics : Fin 5)
  | create
  | call
  | callCode
  | output
  | delegateCall
  | create2
  | staticCall
  | revert
  | invalid
  | selfDestruct
  deriving Repr, DecidableEq

namespace Instruction

/-- The instructions outside the numbered families, by their byte. -/
def single? : Nat → Option Instruction
  | 0x00 => some .stop
  | 0x01 => some .add
  | 0x02 => some .mul
  | 0x03 => some .sub
  | 0x04 => some .div
  | 0x05 => some .signedDiv
  | 0x06 => some .mod
  | 0x07 => some .signedMod
  | 0x08 => some .addMod
  | 0x09 => some .mulMod
  | 0x0a => some .pow
  | 0x0b => some .signExtend
  | 0x10 => some .less
  | 0x11 => some .greater
  | 0x12 => some .signedLess
  | 0x13 => some .signedGreater
  | 0x14 => some .equal
  | 0x15 => some .isZero
  | 0x16 => some .bitAnd
  | 0x17 => some .bitOr
  | 0x18 => some .bitXor
  | 0x19 => some .bitNot
  | 0x1a => some .byte
  | 0x1b => some .shiftLeft
  | 0x1c => some .shiftRight
  | 0x1d => some .arithmeticShiftRight
  | 0x20 => some .keccak
  | 0x30 => some .address
  | 0x31 => some .balance
  | 0x32 => some .origin
  | 0x33 => some .caller
  | 0x34 => some .callValue
  | 0x35 => some .callDataLoad
  | 0x36 => some .callDataSize
  | 0x37 => some .callDataCopy
  | 0x38 => some .codeSize
  | 0x39 => some .codeCopy
  | 0x3a => some .gasPrice
  | 0x3b => some .extCodeSize
  | 0x3c => some .extCodeCopy
  | 0x3d => some .returnDataSize
  | 0x3e => some .returnDataCopy
  | 0x3f => some .extCodeHash
  | 0x40 => some .blockHash
  | 0x41 => some .coinbase
  | 0x42 => some .timestamp
  | 0x43 => some .number
  | 0x44 => some .prevRandao
  | 0x45 => some .gasLimit
  | 0x46 => some .chainId
  | 0x47 => some .selfBalance
  | 0x48 => some .baseFee
  | 0x49 => some .blobHash
  | 0x4a => some .blobBaseFee
  | 0x50 => some .pop
  | 0x51 => some .memoryLoad
  | 0x52 => some .memoryStore
  | 0x53 => some .memoryStoreByte
  | 0x54 => some .storageLoad
  | 0x55 => some .storageStore
  | 0x56 => some .jump
  | 0x57 => some .jumpIf
  | 0x58 => some .position
  | 0x59 => some .memorySize
  | 0x5a => some .gas
  | 0x5b => some .jumpDest
  | 0x5c => some .transientLoad
  | 0x5d => some .transientStore
  | 0x5e => some .memoryCopy
  | 0xf0 => some .create
  | 0xf1 => some .call
  | 0xf2 => some .callCode
  | 0xf3 => some .output
  | 0xf4 => some .delegateCall
  | 0xf5 => some .create2
  | 0xfa => some .staticCall
  | 0xfd => some .revert
  | 0xfe => some .invalid
  | 0xff => some .selfDestruct
  | _ => none

/-- The instruction that a byte stands for. -/
def ofByte? (byte : UInt8) : Option Instruction :=
  let code := byte.toNat
  if 0x5f ≤ code ∧ code ≤ 0x7f then some (.push (Fin.ofNat 33 (code - 0x5f)))
  else if 0x80 ≤ code ∧ code ≤ 0x8f then some (.dup (Fin.ofNat 16 (code - 0x80)))
  else if 0x90 ≤ code ∧ code ≤ 0x9f then some (.swap (Fin.ofNat 16 (code - 0x90)))
  else if 0xa0 ≤ code ∧ code ≤ 0xa4 then some (.log (Fin.ofNat 5 (code - 0xa0)))
  else single? code

/-- The name of an instruction. -/
def name : Instruction → String
  | .stop => "STOP"
  | .add => "ADD"
  | .mul => "MUL"
  | .sub => "SUB"
  | .div => "DIV"
  | .signedDiv => "SDIV"
  | .mod => "MOD"
  | .signedMod => "SMOD"
  | .addMod => "ADDMOD"
  | .mulMod => "MULMOD"
  | .pow => "EXP"
  | .signExtend => "SIGNEXTEND"
  | .less => "LT"
  | .greater => "GT"
  | .signedLess => "SLT"
  | .signedGreater => "SGT"
  | .equal => "EQ"
  | .isZero => "ISZERO"
  | .bitAnd => "AND"
  | .bitOr => "OR"
  | .bitXor => "XOR"
  | .bitNot => "NOT"
  | .byte => "BYTE"
  | .shiftLeft => "SHL"
  | .shiftRight => "SHR"
  | .arithmeticShiftRight => "SAR"
  | .keccak => "KECCAK256"
  | .address => "ADDRESS"
  | .balance => "BALANCE"
  | .origin => "ORIGIN"
  | .caller => "CALLER"
  | .callValue => "CALLVALUE"
  | .callDataLoad => "CALLDATALOAD"
  | .callDataSize => "CALLDATASIZE"
  | .callDataCopy => "CALLDATACOPY"
  | .codeSize => "CODESIZE"
  | .codeCopy => "CODECOPY"
  | .gasPrice => "GASPRICE"
  | .extCodeSize => "EXTCODESIZE"
  | .extCodeCopy => "EXTCODECOPY"
  | .returnDataSize => "RETURNDATASIZE"
  | .returnDataCopy => "RETURNDATACOPY"
  | .extCodeHash => "EXTCODEHASH"
  | .blockHash => "BLOCKHASH"
  | .coinbase => "COINBASE"
  | .timestamp => "TIMESTAMP"
  | .number => "NUMBER"
  | .prevRandao => "PREVRANDAO"
  | .gasLimit => "GASLIMIT"
  | .chainId => "CHAINID"
  | .selfBalance => "SELFBALANCE"
  | .baseFee => "BASEFEE"
  | .blobHash => "BLOBHASH"
  | .blobBaseFee => "BLOBBASEFEE"
  | .pop => "POP"
  | .memoryLoad => "MLOAD"
  | .memoryStore => "MSTORE"
  | .memoryStoreByte => "MSTORE8"
  | .storageLoad => "SLOAD"
  | .storageStore => "SSTORE"
  | .jump => "JUMP"
  | .jumpIf => "JUMPI"
  | .position => "PC"
  | .memorySize => "MSIZE"
  | .gas => "GAS"
  | .jumpDest => "JUMPDEST"
  | .transientLoad => "TLOAD"
  | .transientStore => "TSTORE"
  | .memoryCopy => "MCOPY"
  | .push size => "PUSH" ++ toString size.val
  | .dup depth => "DUP" ++ toString (depth.val + 1)
  | .swap depth => "SWAP" ++ toString (depth.val + 1)
  | .log topics => "LOG" ++ toString topics.val
  | .create => "CREATE"
  | .call => "CALL"
  | .callCode => "CALLCODE"
  | .output => "RETURN"
  | .delegateCall => "DELEGATECALL"
  | .create2 => "CREATE2"
  | .staticCall => "STATICCALL"
  | .revert => "REVERT"
  | .invalid => "INVALID"
  | .selfDestruct => "SELFDESTRUCT"

/-- The generation that introduced an instruction; the invalid one never was. -/
def introduced? : Instruction → Option Spec
  | .invalid => none
  | .blobHash => some .cancun
  | .blobBaseFee => some .cancun
  | .transientLoad => some .cancun
  | .transientStore => some .cancun
  | .memoryCopy => some .cancun
  | .push size => some (if size.val = 0 then .shanghai else .london)
  | _ => some .london

/-- The number of code bytes that follow a push and belong to it. -/
def immediateSize : Instruction → Nat
  | .push size => size.val
  | _ => 0

/-- Whether the instruction always ends its frame. -/
def isTerminating : Instruction → Bool
  | .stop => true
  | .output => true
  | .revert => true
  | .invalid => true
  | .selfDestruct => true
  | _ => false

/-- Whether the instruction is refused in a static frame. -/
def modifiesState : Instruction → Bool
  | .storageStore => true
  | .transientStore => true
  | .log _ => true
  | .create => true
  | .create2 => true
  | .selfDestruct => true
  | _ => false

/-- The gas an instruction costs whatever its operands. -/
def staticCost : Instruction → UInt64
  | .add => 3
  | .mul => 5
  | .sub => 3
  | .div => 5
  | .signedDiv => 5
  | .mod => 5
  | .signedMod => 5
  | .addMod => 8
  | .mulMod => 8
  | .pow => 10
  | .signExtend => 5
  | .less => 3
  | .greater => 3
  | .signedLess => 3
  | .signedGreater => 3
  | .equal => 3
  | .isZero => 3
  | .bitAnd => 3
  | .bitOr => 3
  | .bitXor => 3
  | .bitNot => 3
  | .byte => 3
  | .shiftLeft => 3
  | .shiftRight => 3
  | .arithmeticShiftRight => 3
  | .keccak => 30
  | .address => 2
  | .origin => 2
  | .caller => 2
  | .callValue => 2
  | .callDataLoad => 3
  | .callDataSize => 2
  | .callDataCopy => 3
  | .codeSize => 2
  | .codeCopy => 3
  | .gasPrice => 2
  | .returnDataSize => 2
  | .returnDataCopy => 3
  | .blockHash => 20
  | .coinbase => 2
  | .timestamp => 2
  | .number => 2
  | .prevRandao => 2
  | .gasLimit => 2
  | .chainId => 2
  | .selfBalance => 5
  | .baseFee => 2
  | .blobHash => 3
  | .blobBaseFee => 2
  | .pop => 2
  | .memoryLoad => 3
  | .memoryStore => 3
  | .memoryStoreByte => 3
  | .jump => 8
  | .jumpIf => 10
  | .position => 2
  | .memorySize => 2
  | .gas => 2
  | .jumpDest => 1
  | .transientLoad => 100
  | .transientStore => 100
  | .memoryCopy => 3
  | .create => 32000
  | .create2 => 32000
  | .push size => if size.val = 0 then 2 else 3
  | .dup _ => 3
  | .swap _ => 3
  | _ => 0

/-- The name of the instruction at a byte, defined or not. -/
def nameOfByte (byte : UInt8) : String :=
  ((ofByte? byte).map name).getD "UNKNOWN"

/-- The name of the instruction at a byte with the byte in parentheses. -/
def labelOfByte (byte : UInt8) : String :=
  nameOfByte byte ++ "(0x" ++ Bytes.upperHex byte ++ ")"

end Instruction

/-- The bytes that belong to the instruction at a byte, after the byte itself. -/
def immediateSize (byte : UInt8) : Nat :=
  ((Instruction.ofByte? byte).map Instruction.immediateSize).getD 0

end LedgerEvm
