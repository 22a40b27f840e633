import MacroFusion.Expression.Basic

/-!
# Widths

The least and the greatest number of characters that an expression can take.  An expression that looks
behind has to take the same number always, since that tells where to start.
-/

namespace MacroFusion.Expression

/-- the least and the greatest number of characters, where there is a greatest -/
structure Width where
  lo : Nat
  hi : Option Nat
  deriving DecidableEq, Repr

namespace Width

def fixed (n : Nat) : Width := ⟨n, some n⟩

/-- one after the other -/
def add (v w : Width) : Width := ⟨v.lo + w.lo, v.hi.bind fun m => w.hi.map (m + ·)⟩

/-- one or the other -/
def either (v w : Width) : Width := ⟨min v.lo w.lo, v.hi.bind fun m => w.hi.map (max m)⟩

/-- from `lo` to `hi` copies -/
def times (w : Width) (lo : Nat) (hi : Option Nat) : Width :=
  ⟨w.lo * lo, if w.hi = some 0 || hi = some 0 then some 0
    else w.hi.bind fun m => hi.map (m * ·)⟩

/-- the number of characters, where it is always the same and not too large -/
def fixed? (w : Width) : Option Nat :=
  if w.hi = some w.lo && w.lo ≤ 4294967295 then some w.lo else none

end Width

/-- the width of an expression, given those of the parts it takes again -/
def width (groups : List (Option Width)) : Expression → Width
  | .nothing => .fixed 0
  | .one _ => .fixed 1
  | .seq e f => (e.width groups).add (f.width groups)
  | .alt e f => (e.width groups).either (f.width groups)
  | .times e lo hi _ => (e.width groups).times lo hi
  | .group _ e => e.width groups
  | .place _ => .fixed 0
  | .again number _ => ((groups[number - 1]?).join).getD (.fixed 0)
  | .given _ e f => (e.width groups).either (f.width groups)
  | .look _ _ _ => .fixed 0
  | .once e => e.width groups

end MacroFusion.Expression
