import ScalarServer.Proofs.NodeId
import ScalarServer.Proofs.Path

/-!
# Derived identifiers

The identifier of something in a folder is made of the path of the folder and of the name, and of
nothing else. Only the slashes around the path are lost on the way: a name has no slash, so the last
slash of the identifier is where the path ends.

- `toList_inFolder`, `folderPart_inj`: the identifier is the name behind a part that is made of the
  path, and what this part tells of the path;
- `name_inFolder`: the name can be read off the identifier;
- `inFolder_eq_iff`: which paths and names make the same identifier;
- `parse_text_inFolder`: the written form can be read back;
- `inFolder_exact`: all of these.
-/

namespace ScalarServer.NodeId

open Text

variable {m n : UInt16} {p q x y : String}

/-- What the path of a folder puts before a name: the path without the slashes around it, and a
slash. At the top there is no path, and no slash either. -/
def folderPart (folderPath : String) : List Char :=
  let path := strip (· == '/') folderPath.toList
  if path = [] then [] else path ++ ['/']

theorem toList_inFolder (m : UInt16) (p x : String) :
    (inFolder m p x).identifier.toList = folderPart p ++ x.toList := by
  simp only [inFolder, folderPart]
  split
  · rfl
  · rw [String.toList_ofList, List.append_assoc, List.singleton_append]

/-- The path can be read off the part before the name, up to slashes around it. -/
theorem folderPart_inj :
    folderPart p = folderPart q ↔ strip (· == '/') p.toList = strip (· == '/') q.toList := by
  constructor
  · intro h
    simp only [folderPart] at h
    -- only a path with nothing in it puts nothing before a name, so a mixed case cannot be
    split at h
    · rename_i hp
      split at h
      · rename_i hq
        rw [hp, hq]
      · simp at h
    · split at h
      · simp at h
      · exact List.append_cancel_right h
  · intro h
    simp only [folderPart, h]

/-- The name is what stands behind the last slash. -/
theorem name_inFolder (m : UInt16) (p : String) (hx : '/' ∉ x.toList) :
    (inFolder m p x).name = x := by
  rw [name, toList_inFolder]
  apply String.toList_inj.mp
  rw [String.toList_ofList]
  simp only [folderPart]
  split
  · exact afterLast_of_not_mem hx
  · rw [List.append_assoc]
    exact afterLast_append hx

/-- The same identifier is made of the same name only, and of paths that differ at most in the
slashes around them. -/
theorem inFolder_eq_iff (hx : '/' ∉ x.toList) (hy : '/' ∉ y.toList) :
    inFolder m p x = inFolder n q y ↔
      m = n ∧ x = y ∧ strip (· == '/') p.toList = strip (· == '/') q.toList := by
  constructor
  · intro h
    have hindex : m = n := by
      rw [← inFolder_namespaceIndex m p x, h, inFolder_namespaceIndex]
    -- the names are compared first: with the same name behind them, the parts before it are equal
    have hname : x = y := by rw [← name_inFolder m p hx, h, name_inFolder n q hy]
    subst hname
    have hparts : folderPart p ++ x.toList = folderPart q ++ x.toList := by
      rw [← toList_inFolder m, h, toList_inFolder]
    exact ⟨hindex, rfl, folderPart_inj.mp (List.append_cancel_right hparts)⟩
  · rintro ⟨rfl, rfl, hpath⟩
    simp only [inFolder, hpath]

/-- A semicolon in an identifier comes from the path or from the name. -/
theorem semicolon_mem_inFolder_iff :
    ';' ∈ (inFolder m p x).identifier.toList ↔ ';' ∈ p.toList ∨ ';' ∈ x.toList := by
  have hpath : ';' ∈ strip (· == '/') p.toList ↔ ';' ∈ p.toList := mem_strip_iff (by decide)
  have hpart : ';' ∈ folderPart p ↔ ';' ∈ p.toList := by
    simp only [folderPart]
    split
    · rename_i hnil
      rwa [hnil] at hpath
    · simpa using hpath
  rw [toList_inFolder, List.mem_append, hpart]

/-- Without semicolons, and with a name, the written form of a derived identifier can be read. -/
theorem parse_text_inFolder (m : UInt16) (hp : ';' ∉ p.toList) (hx : ';' ∉ x.toList)
    (hne : x ≠ "") : parse (inFolder m p x).text = .ok (inFolder m p x) := by
  apply parse_text
  · rw [toList_inFolder]
    exact List.append_ne_nil_of_right_ne_nil _ (mt String.toList_eq_nil_iff.mp hne)
  · rw [semicolon_mem_inFolder_iff, not_or]
    exact ⟨hp, hx⟩

/-- Names have no slashes, so that identifiers are equal exactly if they are derived in one
namespace, from one name, and from paths that differ at most in the slashes around them. The name
can be read off the identifier; and if there are no semicolons and the name is not empty, the
identifier can be read back from its written form. -/
theorem inFolder_exact (m n : UInt16) (p q : String) {x y : String} (hx : '/' ∉ x.toList)
    (hy : '/' ∉ y.toList) :
    (inFolder m p x = inFolder n q y ↔
        m = n ∧ x = y ∧ strip (· == '/') p.toList = strip (· == '/') q.toList) ∧
      (inFolder m p x).name = x ∧
      (';' ∉ p.toList → ';' ∉ x.toList → x ≠ "" →
        parse (inFolder m p x).text = .ok (inFolder m p x)) :=
  ⟨inFolder_eq_iff hx hy, name_inFolder m p hx, parse_text_inFolder m⟩

/-- Slashes around the path are of no account, also if there is nothing between them. -/
theorem inFolder_exact_slashes :
    inFolder 2 "//Plant/Line 1/" "Speed" = inFolder 2 "Plant/Line 1" "Speed" ∧
      inFolder 2 "///" "Speed" ≠ inFolder 2 "Plant" "Speed" ∧
      (inFolder 2 "//Plant/Line 1/" "Speed").name = "Speed" ∧
      parse (inFolder 2 "//Plant/Line 1/" "Speed").text =
        .ok (inFolder 2 "//Plant/Line 1/" "Speed") := by
  obtain ⟨hsame, hname, hparse⟩ := inFolder_exact 2 2 "//Plant/Line 1/" "Plant/Line 1"
    (x := "Speed") (y := "Speed") (by decide) (by decide)
  obtain ⟨hother, -⟩ := inFolder_exact 2 2 "///" "Plant"
    (x := "Speed") (y := "Speed") (by decide) (by decide)
  refine ⟨hsame.mpr ⟨rfl, rfl, by decide⟩, ?_, hname, hparse (by decide) (by decide) (by decide)⟩
  rw [Ne, hother]
  decide

end ScalarServer.NodeId
