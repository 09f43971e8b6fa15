import ClusterHarness.Text.Utf8

/-!
# Pipes

What was written to a pipe and not read yet. A pipe keeps it in a few pages, and a page is free
again only when all of it was read, so whoever writes more than there is room for has to wait.
-/

namespace ClusterHarness.Machine

/-- A page of a pipe. -/
structure Page where
  /-- How many bytes of it were read. -/
  taken : Nat := 0
  /-- The bytes of it that were not read yet. -/
  bytes : Bytes
deriving DecidableEq, Repr, Inhabited

namespace Page

/-- The most bytes of a page. -/
def size : Nat := 4096

/-- How many bytes of a page are used up. -/
def used (p : Page) : Nat := p.taken + p.bytes.length

end Page

/-- A pipe with the pages in use, in the order in which they are read. -/
structure Pipe where
  pages : List Page := []
deriving DecidableEq, Repr, Inhabited

namespace Pipe

/-- The most pages of a pipe. -/
def capacity : Nat := 16

def isEmpty (p : Pipe) : Bool := p.pages.isEmpty

def isFull (p : Pipe) : Bool := p.pages.length ≥ capacity

/-! ## Writing -/

/-- Lay bytes out on up to so many pages: the pages, and what is left over. -/
def layOut : Nat → Bytes → List Page × Bytes
  | 0, bytes => ([], bytes)
  | _ + 1, [] => ([], [])
  | free + 1, b :: bs =>
    let (pages, rest) := layOut free ((b :: bs).drop Page.size)
    ({ bytes := (b :: bs).take Page.size } :: pages, rest)

/-- Write to the pages that are free. What is left over has to wait. -/
def fill (p : Pipe) (bytes : Bytes) : Pipe × Bytes :=
  let (pages, rest) := layOut (capacity - p.pages.length) bytes
  (⟨p.pages ++ pages⟩, rest)

/-- Write the bytes that would fill no page to the last page in use, if that has room for them. -/
def join (p : Pipe) (bytes : Bytes) : Pipe × Bytes :=
  let odd := bytes.length % Page.size
  match p.pages.getLast? with
  | none => (p, bytes)
  | some last =>
    if last.used + odd ≤ Page.size then
      let joined := { last with bytes := last.bytes ++ bytes.take odd }
      (⟨p.pages.dropLast ++ [joined]⟩, bytes.drop odd)
    else (p, bytes)

/-- Begin to write bytes. What is left over goes on with `fill`. -/
def write (p : Pipe) (bytes : Bytes) : Pipe × Bytes :=
  let (p, bytes) := p.join bytes
  p.fill bytes

/-! ## Reading -/

/-- Take up to so many bytes from pages: the bytes, and the pages that are left. -/
def takeFrom : Nat → List Page → Bytes × List Page
  | _, [] => ([], [])
  | most, page :: pages =>
    if most < page.bytes.length then
      (page.bytes.take most, ⟨page.taken + most, page.bytes.drop most⟩ :: pages)
    else
      let (bytes, left) := takeFrom (most - page.bytes.length) pages
      (page.bytes ++ bytes, left)

/-- Read up to `most` bytes. -/
def read (p : Pipe) (most : Nat) : Bytes × Pipe :=
  let (bytes, pages) := takeFrom most p.pages
  (bytes, ⟨pages⟩)

end Pipe
end ClusterHarness.Machine
