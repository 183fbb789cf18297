import PayBridge.Binary64.Shortest
import PayBridge.Decimal.Reader
import PayBridge.Json.Reader
import PayBridge.Json.Shape

/-! Messages across the frame boundary. The widget asks its host page to connect a wallet; the page answers
with the outcome of the connection and of the payment. What comes in is an untrusted JSON value, and its
declared type only says which fields are checked. -/
namespace PayBridge

inductive Direction where
  | childToParent
  | parentToChild
  deriving DecidableEq, Repr

inductive Message.Kind where
  | walletConnect
  | walletConnectResult
  | paymentSuccess
  | paymentError
  deriving DecidableEq, Repr

namespace Message.Kind

def name : Message.Kind → String
  | .walletConnect => "walletConnect"
  | .walletConnectResult => "walletConnectResult"
  | .paymentSuccess => "paymentSuccess"
  | .paymentError => "paymentError"

def direction : Message.Kind → Direction
  | .walletConnect => .childToParent
  | _ => .parentToChild

def ofName? : String → Option Message.Kind
  | "walletConnect" => some .walletConnect
  | "walletConnectResult" => some .walletConnectResult
  | "paymentSuccess" => some .paymentSuccess
  | "paymentError" => some .paymentError
  | _ => none

def unknownText (name : String) : String := "unknown message type " ++ name

theorem ofName?_name (kind : Message.Kind) : ofName? kind.name = some kind := by
  cases kind <;> rfl

end Message.Kind

structure WalletConnect where
  walletName : String
  amount : Decimal
  currency : String
  requestId : Option String
  deriving DecidableEq, Repr

structure WalletConnectResult where
  walletName : String
  success : Bool
  accounts : Option (List String)
  error : Option String
  requestId : Option String
  deriving DecidableEq, Repr

/-- A message of any kind; the last two are a submitted transaction and a failed payment. -/
inductive Message where
  | walletConnect (request : WalletConnect)
  | walletConnectResult (result : WalletConnectResult)
  | paymentSuccess (signature : String)
  | paymentError (error : Option String)
  deriving DecidableEq, Repr

inductive Message.Error where
  | notAnObject
  | missingType
  | unknownType (name : String)
  | invalidPayload (kind : Message.Kind) (cause : Json.ShapeError)
  | notJson
  deriving DecidableEq, Repr

def Message.Error.message : Message.Error → String
  | .notAnObject => "message is not an object"
  | .missingType => "missing message type"
  | .unknownType name => "unknown message type: " ++ name
  | .invalidPayload kind cause => "invalid " ++ kind.name ++ " payload: " ++ cause.message
  | .notJson => "JSON error"

namespace Message

open PayBridge.Json (Decoder ShapeError)

def kind : Message → Message.Kind
  | .walletConnect _ => .walletConnect
  | .walletConnectResult _ => .walletConnectResult
  | .paymentSuccess _ => .paymentSuccess
  | .paymentError _ => .paymentError

def direction (m : Message) : Direction := m.kind.direction

def amountShape : String := "a Decimal type representing a fixed-point number"

def decimalOfBinary64? (x : Binary64) : Option Decimal :=
  Decimal.read? (if x.negative then '-' :: x.plain else x.plain)

/-- An amount: an integer, a double by its shortest text, or a text. -/
def decodeAmount : Decoder Decimal
  | .number (.int n) =>
    match Decimal.ofInt? n with
    | some d => .ok d
    | none => .error (.wrongValue (.integer n) amountShape)
  | .number (.float x) =>
    match decimalOfBinary64? x with
    | some d => .ok d
    | none => .error (.wrongValue (.float x) amountShape)
  | .string s =>
    match Decimal.read? s.toList with
    | some d => .ok d
    | none => .error (.wrongValue (.string s) amountShape)
  | value => .error (.wrongType value.found amountShape)

def decodeWalletConnect : Decoder WalletConnect := fun value => do
  let amount ← Decoder.field "amount" decodeAmount value
  let currency ← Decoder.field "currency" Decoder.string value
  let requestId ← Decoder.optionalField "requestId" Decoder.string value
  let walletName ← Decoder.field "walletName" Decoder.string value
  let walletName ← Decoder.required "walletName" walletName
  let amount ← Decoder.required "amount" amount
  let currency ← Decoder.required "currency" currency
  pure { walletName, amount, currency, requestId }

def decodeWalletConnectResult : Decoder WalletConnectResult := fun value => do
  let accounts ← Decoder.optionalField "accounts" (Decoder.list Decoder.string) value
  let error ← Decoder.optionalField "error" Decoder.string value
  let requestId ← Decoder.optionalField "requestId" Decoder.string value
  let success ← Decoder.field "success" Decoder.bool value
  let walletName ← Decoder.field "walletName" Decoder.string value
  let walletName ← Decoder.required "walletName" walletName
  let success ← Decoder.required "success" success
  pure { walletName, success, accounts, error, requestId }

def decodeSignature : Decoder String := fun value => do
  let signature ← Decoder.field "signature" Decoder.string value
  Decoder.required "signature" signature

def decodePayload : Message.Kind → Decoder Message
  | .walletConnect => fun value => (decodeWalletConnect value).map .walletConnect
  | .walletConnectResult => fun value => (decodeWalletConnectResult value).map .walletConnectResult
  | .paymentSuccess => fun value => (decodeSignature value).map .paymentSuccess
  | .paymentError => fun value =>
    (Decoder.optionalField "error" Decoder.string value).map .paymentError

def declaredType? (data : Json) : Option String := (data.get? "type").bind Json.string?

/-- Reads a message: object, known type, fields of that type. Other fields are ignored. -/
def parse (data : Json) : Except Message.Error Message :=
  match data with
  | .object _ =>
    match declaredType? data with
    | none => .error .missingType
    | some name =>
      match Message.Kind.ofName? name with
      | none => .error (.unknownType name)
      | some kind => (decodePayload kind data).mapError (.invalidPayload kind)
  | _ => .error .notAnObject

def parseText (text : String) : Except Message.Error Message :=
  match Json.read? text with
  | none => .error .notJson
  | some data => parse data

/-- The fields of a message, absent ones left out, in the order of their keys. -/
def fields : Message → List (String × Json)
  | .walletConnect request => Json.present [
      ("amount", some (.number (.float request.amount.toBinary64))),
      ("currency", some (.string request.currency)),
      ("requestId", request.requestId.map .string),
      ("type", some (.string Message.Kind.walletConnect.name)),
      ("walletName", some (.string request.walletName))]
  | .walletConnectResult result => Json.present [
      ("accounts", result.accounts.map fun accounts => .array (accounts.map .string)),
      ("error", result.error.map .string),
      ("requestId", result.requestId.map .string),
      ("success", some (.bool result.success)),
      ("type", some (.string Message.Kind.walletConnectResult.name)),
      ("walletName", some (.string result.walletName))]
  | .paymentSuccess signature => Json.present [
      ("signature", some (.string signature)),
      ("type", some (.string Message.Kind.paymentSuccess.name))]
  | .paymentError error => Json.present [
      ("error", error.map .string),
      ("type", some (.string Message.Kind.paymentError.name))]

def toJson (m : Message) : Json := .object m.fields

end Message
end PayBridge
