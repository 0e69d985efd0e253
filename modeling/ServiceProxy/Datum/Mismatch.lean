import ServiceProxy.Datum.Basic
import ServiceProxy.Description.Host
import ServiceProxy.Text.Quoted

/-! How a data tree can fail to hold what is wanted of it. -/

set_option autoImplicit false

namespace ServiceProxy

inductive Found where
  | null
  | truth (b : Bool)
  | integer (n : Int)
  | real (shown : String)
  | text (s : String)
  | sequence
  | map
  deriving DecidableEq, Repr

def Found.message : Found → String
  | .null => "null"
  | .truth b => "boolean `" ++ (if b then "true" else "false") ++ "`"
  | .integer n => "integer `" ++ toString n ++ "`"
  | .real shown => "floating point `" ++ shown ++ "`"
  | .text s => "string " ++ Quoted.text s
  | .sequence => "sequence"
  | .map => "map"

def Datum.found? : Datum → Option Found
  | .null => some .null
  | .truth b => some (.truth b)
  | .integer n => some (.integer n)
  | .real shown => some (.real shown)
  | .text s => some (.text s)
  | .moment => some .map
  | .list _ => some .sequence
  | .tables _ => some .sequence
  | .record _ => some .map
  | .unfit => none
  | .fault => none

inductive Mismatch where
  | wrongType (found : Found) (expected : String)
  | outOfRange (n : Int) (expected : String)
  | missingField (name : String)
  | duplicateField (name : String)
  | tooShort (length : Nat) (shape : String) (fields : Nat)
  | unknownVariant (name : String) (known : List String)
  | noVariant
  | severalVariants
  | variantNotEmpty
  | variantHasElements
  | variantNotTable (found : String)
  | variantNeither
  | address (fault : AddressFault)
  deriving DecidableEq, Repr

namespace Mismatch

def choice (known : List String) : String :=
  let quoted := known.map fun name => "`" ++ name ++ "`"
  match quoted with
  | [a] => a
  | [a, b] => a ++ " or " ++ b
  | _ => "one of " ++ String.intercalate ", " quoted

def message : Mismatch → String
  | .wrongType found expected => "invalid type: " ++ found.message ++ ", expected " ++ expected
  | .outOfRange n expected => "invalid value: integer `" ++ toString n ++ "`, expected " ++ expected
  | .missingField name => "missing field `" ++ name ++ "`"
  | .duplicateField name => "duplicate field `" ++ name ++ "`"
  | .tooShort length shape fields =>
    "invalid length " ++ Decimal.text length ++ ", expected struct " ++ shape ++ " with " ++
      Decimal.text fields ++ " elements"
  | .unknownVariant name known => "unknown variant `" ++ name ++ "`, expected " ++ choice known
  | .noVariant => "wanted exactly 1 element, found 0 elements"
  | .severalVariants => "wanted exactly 1 element, more than 1 element"
  | .variantNotEmpty => "expected empty table"
  | .variantHasElements => "expected empty array"
  | .variantNotTable found => "expected table, found " ++ found
  | .variantNeither => "wanted string or table"
  | .address fault => fault.message

end Mismatch

inductive Refusal where
  | malformed
  | mismatch (m : Mismatch)
  deriving DecidableEq, Repr

end ServiceProxy
