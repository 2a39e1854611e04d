/-!
# Digests

A hash of 64 bits of a sequence of strings, which names what is derived from a formula. Two words are
mixed by multiplying them and folding the halves of the product onto each other.
-/

namespace OlapFormula.Digest

def multiplier : UInt64 := 6364136223846793005

def pad : UInt64 := 0x243F6A8885A308D3 ^^^ 0x452821E638D01377

def initial : UInt64 := 0x13198A2E03707344 ^^^ 0xBE5466CF34E90C6C

def lowKey : UInt64 := 0xA4093822299F31D0 ^^^ 0xC0AC29B7C97C50DD

def highKey : UInt64 := 0x082EFA98EC4E6C89 ^^^ 0x3F84D5B5B5470917

/-- The two halves of the product of 128 bits, one onto the other. -/
def foldedProduct (a b : UInt64) : UInt64 :=
  let product := a.toNat * b.toNat
  UInt64.ofNat product ^^^ UInt64.ofNat (product >>> 64)

def rotateLeft (word count : UInt64) : UInt64 := word <<< count ||| word >>> (64 - count)

/-- The word that bytes spell, the least significant first. -/
def littleEndian (bytes : List UInt8) : UInt64 :=
  bytes.foldr (fun byte word => word <<< 8 ||| byte.toUInt64) 0

def addPair (state low high : UInt64) : UInt64 :=
  rotateLeft ((state + pad) ^^^ foldedProduct (low ^^^ lowKey) (high ^^^ highKey)) 23

/-- Adds the first and the last `size` bytes, which may overlap. -/
def addEnds (size : Nat) (state : UInt64) (bytes : List UInt8) : UInt64 :=
  addPair state (littleEndian (bytes.take size))
    (littleEndian (bytes.drop (bytes.length - size)))

/-- Adds blocks of sixteen bytes as long as more bytes than that are left; the count bounds the
blocks. -/
def addBlocks : (count : Nat) → (state : UInt64) → List UInt8 → UInt64
  | 0, state, _ => state
  | count + 1, state, bytes =>
    if 16 < bytes.length then
      let block := bytes.take 16
      addBlocks count (addPair state (littleEndian (block.take 8)) (littleEndian (block.drop 8)))
        (bytes.drop 16)
    else state

def addBytes (state : UInt64) (bytes : List UInt8) : UInt64 :=
  let size := bytes.length
  let state := (state + UInt64.ofNat size) * multiplier
  if 16 < size then
    let last := bytes.drop (size - 16)
    let state := addPair state (littleEndian (last.take 8)) (littleEndian (last.drop 8))
    addBlocks size state bytes
  else if 8 < size then addEnds 8 state bytes
  else if 4 ≤ size then addEnds 4 state bytes
  else if 2 ≤ size then
    addPair state (littleEndian (bytes.take 2)) (littleEndian (bytes.drop (size - 1)))
  else addEnds 1 state bytes

/-- Adds a string: its bytes in UTF-8, and a byte that none of them is. -/
def addString (state : UInt64) (text : String) : UInt64 :=
  let bytes := text.toList.flatMap String.utf8EncodeChar
  foldedProduct (0xFF ^^^ addBytes state bytes) multiplier

def finish (state : UInt64) : UInt64 := rotateLeft (foldedProduct state pad) (state % 64)

def ofStrings (texts : List String) : UInt64 := finish (texts.foldl addString initial)

/-- Sixteen hexadecimal digits. -/
def hex (word : UInt64) : String :=
  let digits := Nat.toDigits 16 word.toNat
  String.ofList (List.replicate (16 - digits.length) '0' ++ digits)

end OlapFormula.Digest
