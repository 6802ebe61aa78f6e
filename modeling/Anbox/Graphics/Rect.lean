import Mathlib.Data.Int.Basic

namespace Anbox.Graphics

structure Rect where
  left_ : Int
  top_ : Int
  right_ : Int
  bottom_ : Int
  deriving DecidableEq

def Rect.Invalid : Rect := { left_ := -1, top_ := -1, right_ := -1, bottom_ := -1 }

def Rect.width (r : Rect) : Int := r.right_ - r.left_

def Rect.height (r : Rect) : Int := r.bottom_ - r.top_

def Rect.translate (r : Rect) (x y : Int) : Rect :=
  { left_ := x, top_ := y, right_ := x + r.width, bottom_ := y + r.height }

def Rect.resize (r : Rect) (width height : Int) : Rect :=
  { r with right_ := r.left_ + width, bottom_ := r.top_ + height }

end Anbox.Graphics
