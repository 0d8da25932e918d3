namespace Scrimmage

/-- A token and those derived from it, each of which goes by the number of those derived before it. To cancel
the root cancels all of them, and what is derived from a cancelled root is cancelled from the start. -/
structure TokenTree where
  /-- Whether the root is cancelled. -/
  cancelled : Bool
  /-- How many tokens have been derived. -/
  derived : Nat
  /-- The derived tokens that are not cancelled. -/
  live : List Nat
  inherited : cancelled = true → live = []

namespace TokenTree

def create : TokenTree := { cancelled := false, derived := 0, live := [], inherited := fun _ => rfl }

/-- Derives a token, whose number is that of the tokens derived so far. -/
def derive (t : TokenTree) : TokenTree :=
  { t with
    derived := t.derived + 1
    live := if t.cancelled then [] else t.derived :: t.live
    inherited := fun cancelled => if_pos cancelled }

/-- Cancels a derived token, and no other. -/
def cancel (t : TokenTree) (token : Nat) : TokenTree :=
  { t with
    live := t.live.filter (· ≠ token)
    inherited := fun cancelled => by rw [t.inherited cancelled, List.filter_nil] }

/-- Cancels the root, and with it all that have been derived from it. -/
def cancelAll (t : TokenTree) : TokenTree := { t with cancelled := true, live := [], inherited := fun _ => rfl }

def isCancelled (t : TokenTree) (token : Nat) : Bool := token < t.derived && token ∉ t.live

end TokenTree

end Scrimmage
