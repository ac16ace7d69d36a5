import Mathlib

/-!
# The address of a caller

`extractClientIP` takes the first element of the header `x-forwarded-for`.  A
proxy that appends the address of its peer leaves that element to the client.
-/

namespace MessagingPlatform.ClientAddress

section Extraction

/-- The values of each key. -/
abbrev Metadata := String → List String

/-- What a gRPC call says of its origin. -/
structure Context where
  metadata : Option Metadata
  peerAddr : Option String

/-- `unicode.IsSpace`. -/
def isSpace (c : Char) : Bool :=
  c ∈ ['\t', '\n', '\x0b', '\x0c', '\x0d', ' ', '\u0085', '\u00a0', '\u1680',
    '\u2028', '\u2029', '\u202f', '\u205f', '\u3000'] ||
    ('\u2000' ≤ c && c ≤ '\u200a')

/-- `strings.TrimSpace`. -/
def trimSpace (text : String) : String :=
  String.ofList
    (((text.toList.dropWhile isSpace).reverse.dropWhile isSpace).reverse)

/-- The text before the first comma, or all of it. -/
def firstElement (text : String) : String :=
  String.ofList (text.toList.takeWhile (· ≠ ','))

/-- The text before the last colon, or all of it. -/
def stripPort (addr : String) : String :=
  match addr.toList.reverse.dropWhile (· ≠ ':') with
  | [] => addr
  | _ :: host => String.ofList host.reverse

def peerIP : Option String → String
  | none => ""
  | some addr => stripPort addr

def extractClientIP (ctx : Context) : String :=
  match ctx.metadata with
  | none => peerIP ctx.peerAddr
  | some metadata =>
      match metadata "x-forwarded-for" with
      | [] => peerIP ctx.peerAddr
      | value :: _ =>
          if value = "" then peerIP ctx.peerAddr
          else trimSpace (firstElement value)

end Extraction

section Proxy

/-- The header that a proxy passes on: the address of its peer, after the value
the peer has sent. -/
def forwarded (sent : Option String) (address : String) : String :=
  match sent with
  | none => address
  | some value => value ++ ", " ++ address

/-- A call that came through the proxy. -/
def behindProxy (others : Metadata) (peerAddr : Option String)
    (address : String) (sent : Option String) : Context where
  metadata :=
    some (Function.update others "x-forwarded-for" [forwarded sent address])
  peerAddr := peerAddr

/-- The address that a header value claims. -/
def claimed (peerAddr : Option String) (address : String) :
    Option String → String
  | some value => trimSpace (firstElement value)
  | none =>
      if address = "" then peerIP peerAddr
      else trimSpace (firstElement address)

theorem takeWhile_append_comma (text rest : List Char) :
    (text ++ ',' :: rest).takeWhile (· ≠ ',') = text.takeWhile (· ≠ ',') := by
  induction text with
  | nil => rfl
  | cons c text ih =>
      rw [List.cons_append, List.takeWhile_cons, List.takeWhile_cons, ih]

theorem firstElement_append (value rest : String) :
    firstElement (value ++ ", " ++ rest) = firstElement value := by
  have hcomma : (value ++ ", " ++ rest).toList =
      value.toList ++ ',' :: ' ' :: rest.toList := by
    simp
  rw [firstElement, hcomma, takeWhile_append_comma, firstElement]

/-- A value that the client sends decides alone what is extracted. -/
theorem extractClientIP_behindProxy (others : Metadata)
    (peerAddr : Option String) (address : String) (sent : Option String) :
    extractClientIP (behindProxy others peerAddr address sent) =
      claimed peerAddr address sent := by
  cases sent with
  | none => simp [extractClientIP, behindProxy, forwarded, claimed]
  | some value =>
      have hne : value ++ ", " ++ address ≠ "" := by
        intro heq
        have hlength := congrArg String.length heq
        simp at hlength
      simp [extractClientIP, behindProxy, forwarded, claimed, hne,
        firstElement_append]

end Proxy

end MessagingPlatform.ClientAddress
