import PayBridge.Proofs.Solana.AddressText
import PayBridge.Solana.Merchant

/-! The address that a request is paid at. Addresses of the ledger are written with letters and digits, so the scheme
with the recipient behind it can always be read, and the query is put behind it. -/
namespace PayBridge.Solana

open PayBridge.Text PayBridge.Url

/-- The scheme with a recipient behind it, and what may follow, is read as scheme and recipient. -/
theorem Address.read?_base (address : Address) {behind : List Char} (visible : ∀ c ∈ behind, IsVisible c)
    (closed : ∀ c ∈ behind.head?, c = '?') :
    Rootless.read? (("solana:" ++ address.text).toList ++ behind) = some ⟨"solana".toList, address.text.toList⟩ := by
  have written : ("solana:" ++ address.text).toList ++ behind =
      "solana".toList ++ ':' :: (address.text.toList ++ behind) := by
    rw [String.toList_append, List.append_assoc]
    rfl
  rw [written]
  exact Rootless.read?_append (List.all_eq_true.mp rfl) (by decide) address.text_isAlphanumeric visible closed

namespace Merchant

variable {address : Address} {request : PaymentRequest}

theorem uri_eq (merchant : Merchant) (canonical : request.recipient = address.text) :
    merchant.uri request = "solana:" ++ request.recipient ++ "?" ++
      String.ofList (FormEncoded.encode (merchant.query request)) := by
  have base := address.read?_base (List.forall_mem_nil IsVisible) nofun
  rw [List.append_nil, ← canonical] at base
  rw [← String.toList_inj, uri, base]
  simp only [Rootless.text, String.toList_append, String.toList_ofList, List.append_assoc]
  rfl

end Merchant
end PayBridge.Solana
