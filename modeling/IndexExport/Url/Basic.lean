import IndexExport.Text.Digits
/-!
# Addresses

An address is kept in the parts it is written from, each already in its written form. One
without a host has no authority at all; a host may also be empty. A number after the host
tells the services of one host apart.
-/
set_option autoImplicit false

namespace IndexExport

structure Url where
  scheme : List Char
  userinfo : List Char
  host : Option (List Char)
  hostNumber : Option Nat
  path : List Char
  query : Option (List Char)
  fragment : Option (List Char)
  deriving DecidableEq, Repr, Inhabited

namespace Url

/-- What a scheme means for the rest of an address: special schemes always have
a host and imply a number after it, files are special and have no such number. -/
inductive SchemeKind where
  | special (usualNumber : Nat)
  | file
  | other
  deriving DecidableEq, Repr

def schemeKind (scheme : List Char) : SchemeKind :=
  if scheme = "http".toList ∨ scheme = "ws".toList then .special 80
  else if scheme = "https".toList ∨ scheme = "wss".toList then .special 443
  else if scheme = "ftp".toList then .special 21
  else if scheme = "file".toList then .file
  else .other

/-- Backslashes separate like slashes, and a host is a domain or a number. -/
def SchemeKind.isSpecial : SchemeKind → Bool
  | .other => false
  | _ => true

def userinfoText (userinfo : List Char) : List Char :=
  if userinfo = [] then [] else userinfo ++ ['@']

def hostNumberText : Option Nat → List Char
  | none => []
  | some n => ':' :: Text.decimal n

def markedText (mark : Char) : Option (List Char) → List Char
  | none => []
  | some cs => mark :: cs

/-- Slashes, user, host and its number. Without a host, a path that begins with two slashes is
kept from being read as one. -/
def authorityText (url : Url) : List Char :=
  match url.host with
  | some host => ['/', '/'] ++ userinfoText url.userinfo ++ host ++ hostNumberText url.hostNumber
  | none => if ['/', '/'].isPrefixOf url.path then ['/', '.'] else []

def chars (url : Url) : List Char :=
  url.scheme ++ ':' :: url.authorityText ++ url.path ++ markedText '?' url.query ++
    markedText '#' url.fragment

def text (url : Url) : String :=
  String.ofList url.chars

/-- What a request asks the host for: path and query, not the fragment. -/
def target (url : Url) : String :=
  String.ofList (url.path ++ markedText '?' url.query)

end Url

end IndexExport
