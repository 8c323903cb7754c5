/-
Image references: a repository, which may start with a registry and its
port, an optional tag behind a colon, an optional digest behind an at sign.
-/
namespace Fleetkeeper.Image

/-- The repository part, as characters: without the digest, and without the
tag, which is the part behind the last colon of the last path segment. -/
def repositoryChars (image : List Char) : List Char :=
  let plain := image.takeWhile (· ≠ '@')
  -- from the back: the last segment, then the slash and what is before it
  let back := plain.reverse
  let segment := back.takeWhile (· ≠ '/')
  let rest := back.dropWhile (· ≠ '/')
  let named :=
    if segment.contains ':' then (segment.dropWhile (· ≠ ':')).drop 1
    else segment
  (named ++ rest).reverse

/-- The image with another tag; a digest is dropped. -/
def withTag (image tag : String) : String :=
  String.ofList (repositoryChars image.toList ++ ':' :: tag.toList)

end Fleetkeeper.Image
