import Mathlib.Tactic.Common

/-!
Where the left menu pops up (`src/left-menu.c`).

`menu_position_func` copies the placement of GTK's own `gtk_menu_position`: the
menu opens beside the tray icon, on the side that has room for it.  What it
asks GTK for is `MenuSurroundings`.  The vertical position is clamped to the
work area; the horizontal one is not, so it stays inside only when the side the
menu opens to has room for the margin too.
-/

namespace ConnmanUi

structure GdkRectangle where
  x : Int
  y : Int
  width : Int
  height : Int
  deriving DecidableEq

structure GtkRequisition where
  width : Int
  height : Int
  deriving DecidableEq

structure GtkBorder where
  left : Int
  right : Int
  top : Int
  bottom : Int
  deriving DecidableEq

/-- What `menu_position_func` asks of the menu, the tray icon and the screen. -/
structure MenuSurroundings where
  rtl : Bool
  /-- `gtk_status_icon_get_geometry`, `none` where it returns FALSE. -/
  geometry : Option GdkRectangle
  /-- The natural sizes of the menu's items. -/
  items : List GtkRequisition
  padding : GtkBorder
  margin : GtkBorder
  /-- The work area of the monitor at a point. -/
  workarea : Int → Int → GdkRectangle

/-- `accumulate_menu_size`, over one item. -/
def accumulateMenuSize (menuSize itemSize : GtkRequisition) : GtkRequisition where
  width := max itemSize.width menuSize.width
  height := menuSize.height + itemSize.height

/-- The size `gtk_container_foreach` leaves in `requisition`. -/
def menuSize (items : List GtkRequisition) : GtkRequisition :=
  items.foldl accumulateMenuSize ⟨0, 0⟩

/-- GLib's `CLAMP`. -/
def clamp (value low high : Int) : Int :=
  if value > high then high else if value < low then low else value

namespace MenuSurroundings

/-- `x` and `y` before the layout: the centre of the tray icon. -/
def centre (m : MenuSurroundings) : Int × Int :=
  match m.geometry with
  | some area => (area.x + area.width.tdiv 2, area.y + area.height.tdiv 2)
  | none => (0, 0)

/-- The work area the menu is placed in. -/
def monitor (m : MenuSurroundings) : GdkRectangle := m.workarea m.centre.1 m.centre.2

def requisition (m : MenuSurroundings) : GtkRequisition := menuSize m.items

def spaceLeft (m : MenuSurroundings) : Int := m.centre.1 - m.monitor.x

def spaceRight (m : MenuSurroundings) : Int := m.monitor.x + m.monitor.width - m.centre.1 - 1

def spaceAbove (m : MenuSurroundings) : Int := m.centre.2 - m.monitor.y

def spaceBelow (m : MenuSurroundings) : Int := m.monitor.y + m.monitor.height - m.centre.2 - 1

def neededWidth (m : MenuSurroundings) : Int := m.requisition.width - m.padding.left

def neededHeight (m : MenuSurroundings) : Int := m.requisition.height - m.padding.top

/-- The test for opening to the left of the icon, once a side has room. -/
def OpensLeft (m : MenuSurroundings) : Prop :=
  (m.rtl ∧ m.neededWidth ≤ m.spaceLeft) ∨ (¬ m.rtl ∧ m.neededWidth > m.spaceRight)

instance (m : MenuSurroundings) : Decidable m.OpensLeft := inferInstanceAs (Decidable (_ ∨ _))

/-- "Position horizontally." -/
def outX (m : MenuSurroundings) : Int :=
  if m.neededWidth ≤ m.spaceLeft ∨ m.neededWidth ≤ m.spaceRight then
    if m.OpensLeft then
      m.centre.1 - m.margin.left + m.padding.left - m.requisition.width + 1
    else m.centre.1 + m.margin.right - m.padding.right
  else if m.requisition.width ≤ m.monitor.width then
    if m.spaceLeft > m.spaceRight then m.monitor.x
    else m.monitor.x + m.monitor.width - m.requisition.width
  else if m.rtl then m.monitor.x + m.monitor.width - m.requisition.width
  else m.monitor.x

/-- "Position vertically". -/
def outY (m : MenuSurroundings) : Int :=
  if m.neededHeight ≤ m.spaceAbove ∨ m.neededHeight ≤ m.spaceBelow then
    clamp
      (if m.neededHeight ≤ m.spaceBelow then m.centre.2 + m.margin.top - m.padding.top
        else m.centre.2 - m.margin.bottom + m.padding.bottom - m.requisition.height + 1)
      m.monitor.y (m.monitor.y + m.monitor.height - m.requisition.height)
  else if m.neededHeight > m.spaceBelow ∧ m.neededHeight > m.spaceAbove then
    if m.spaceBelow ≥ m.spaceAbove then
      m.monitor.y + m.monitor.height - m.requisition.height
    else m.monitor.y
  else m.monitor.y

/-- `menu_position_func`. -/
def menuPositionFunc (m : MenuSurroundings) : Int × Int := (m.outX, m.outY)

/-! ## The two axes -/

/-- The stretch of a menu of the given length that starts at `out`. -/
def Within (out length origin extent : Int) : Prop := origin ≤ out ∧ out + length ≤ origin + extent

instance (out length origin extent : Int) : Decidable (Within out length origin extent) :=
  inferInstanceAs (Decidable (_ ∧ _))

/-- The whole menu is inside the work area. -/
def InsideWorkArea (m : MenuSurroundings) (out : Int × Int) : Prop :=
  Within out.1 m.requisition.width m.monitor.x m.monitor.width ∧
    Within out.2 m.requisition.height m.monitor.y m.monitor.height

instance (m : MenuSurroundings) (out : Int × Int) : Decidable (m.InsideWorkArea out) :=
  inferInstanceAs (Decidable (_ ∧ _))

/-- A side has room, and the one the menu opens to has room for the margin as
well, while the padding does not reach past the work area on the other side; or
no side has room, and the menu goes to the edge. -/
def RoomWithMargin (m : MenuSurroundings) : Prop :=
  m.neededWidth ≤ m.spaceLeft ∨ m.neededWidth ≤ m.spaceRight →
    if m.OpensLeft then
      m.neededWidth + m.margin.left ≤ m.spaceLeft + 1 ∧
        m.padding.left ≤ m.spaceRight + m.margin.left
    else
      m.requisition.width + m.margin.right ≤ m.spaceRight + 1 + m.padding.right ∧
        m.padding.right ≤ m.spaceLeft + m.margin.right

variable {m : MenuSurroundings}

theorem clamp_within {value length origin extent : Int} (fits : length ≤ extent) :
    Within (clamp value origin (origin + extent - length)) length origin extent := by
  unfold clamp Within
  split
  · omega
  · split <;> omega

/-- Against either edge, a menu that fits is inside. -/
theorem edge_within {length extent : Int} (origin : Int) (fits : length ≤ extent) :
    Within origin length origin extent ∧
      Within (origin + extent - length) length origin extent := by
  unfold Within
  omega

/-- The vertical position is right wherever the icon is. -/
theorem outY_within (fits : m.requisition.height ≤ m.monitor.height) :
    Within m.outY m.requisition.height m.monitor.y m.monitor.height := by
  have ⟨atTop, atBottom⟩ := edge_within m.monitor.y fits
  unfold outY
  split
  · exact clamp_within fits
  · split
    · split
      · exact atBottom
      · exact atTop
    · exact atTop

/-- To the left of the icon nothing holds the menu back. -/
theorem left_within_iff :
    Within (m.centre.1 - m.margin.left + m.padding.left - m.requisition.width + 1)
        m.requisition.width m.monitor.x m.monitor.width ↔
      m.neededWidth + m.margin.left ≤ m.spaceLeft + 1 ∧
        m.padding.left ≤ m.spaceRight + m.margin.left := by
  simp only [Within, neededWidth, spaceLeft, spaceRight]
  omega

/-- Nor to the right. -/
theorem right_within_iff :
    Within (m.centre.1 + m.margin.right - m.padding.right) m.requisition.width m.monitor.x
        m.monitor.width ↔
      m.requisition.width + m.margin.right ≤ m.spaceRight + 1 + m.padding.right ∧
        m.padding.right ≤ m.spaceLeft + m.margin.right := by
  simp only [Within, spaceLeft, spaceRight]
  omega

theorem outX_within_iff (fits : m.requisition.width ≤ m.monitor.width) :
    Within m.outX m.requisition.width m.monitor.x m.monitor.width ↔ m.RoomWithMargin := by
  by_cases room : m.neededWidth ≤ m.spaceLeft ∨ m.neededWidth ≤ m.spaceRight
  · simp only [outX, RoomWithMargin, room, if_true, forall_const]
    split
    · exact left_within_iff
    · exact right_within_iff
  · have ⟨atLeft, atRight⟩ := edge_within m.monitor.x fits
    have placed : Within m.outX m.requisition.width m.monitor.x m.monitor.width := by
      rw [outX, if_neg room, if_pos fits]
      split
      · exact atLeft
      · exact atRight
    exact iff_of_true placed fun side => absurd side room

/-- A menu no larger than the work area is placed inside it exactly when the
side it opens to has room for its margin. -/
theorem menu_inside_iff_room (fitsWidth : m.requisition.width ≤ m.monitor.width)
    (fitsHeight : m.requisition.height ≤ m.monitor.height) :
    m.InsideWorkArea m.menuPositionFunc ↔ m.RoomWithMargin := by
  constructor
  · intro inside
    exact (outX_within_iff fitsWidth).mp inside.1
  · intro room
    exact ⟨(outX_within_iff fitsWidth).mpr room, outY_within fitsHeight⟩

/-- An icon in the top right corner of a screen, its panel above the work area:
the menu opens below it, to the left. -/
def topRightIcon : MenuSurroundings where
  rtl := false
  geometry := some ⟨1320, 0, 24, 24⟩
  items := [⟨180, 25⟩, ⟨200, 25⟩]
  padding := ⟨0, 0, 0, 0⟩
  margin := ⟨0, 0, 0, 0⟩
  workarea _ _ := ⟨0, 24, 1366, 744⟩

theorem menu_inside_of_topRightIcon :
    (topRightIcon.requisition.width ≤ topRightIcon.monitor.width ∧
        topRightIcon.requisition.height ≤ topRightIcon.monitor.height) ∧
      (topRightIcon.InsideWorkArea topRightIcon.menuPositionFunc ↔
        topRightIcon.RoomWithMargin) :=
  ⟨by decide, menu_inside_iff_room (by decide) (by decide)⟩

/-- An icon in a panel 64 pixels wide along the left edge, outside the work
area: the menu opens over the panel. -/
def leftPanelIcon : MenuSurroundings where
  rtl := false
  geometry := some ⟨20, 288, 24, 24⟩
  items := [⟨180, 25⟩, ⟨200, 25⟩]
  padding := ⟨0, 0, 0, 0⟩
  margin := ⟨0, 0, 0, 0⟩
  workarea _ _ := ⟨64, 0, 1302, 768⟩

theorem menu_outside_of_leftPanelIcon :
    (leftPanelIcon.requisition.width ≤ leftPanelIcon.monitor.width ∧
        leftPanelIcon.requisition.height ≤ leftPanelIcon.monitor.height) ∧
      ¬ leftPanelIcon.InsideWorkArea leftPanelIcon.menuPositionFunc := by
  decide

end MenuSurroundings

end ConnmanUi
