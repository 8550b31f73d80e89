import FacetQuery.Text.Lines

/-! Templates of configuration files: examples in which every line is a comment. -/
namespace FacetQuery

/-- Makes a line a comment, unless it is empty or a comment already. -/
def commentLine (line : List Char) : List Char :=
  match line with
  | [] => []
  | c :: _ => if c = '#' then line else '#' :: ' ' :: line

/-- A text with all its lines made comments. -/
def commentedOut (text : String) : String :=
  String.ofList ((lines text.toList).flatMap fun line => commentLine line ++ ['\n'])

/-- The example for a project. -/
def localExample : String :=
  "# sift configuration\n" ++
  "#\n" ++
  "# Keywords become keys in search queries: with \"status\" listed below,\n" ++
  "# `status:open` filters on status while other words stay fulltext terms.\n" ++
  "# The reserved key `fulltext` is always recognized.\n" ++
  "\n" ++
  "# Stop here: ignore .sift.toml files in parent directories and ~/.sift.toml.\n" ++
  "root = false\n" ++
  "\n" ++
  "[query]\n" ++
  "# A single keyword or a list of keywords.\n" ++
  "keywords = [\"status\", \"tag\", \"owner\"]\n"

/-- The example for a home directory. -/
def globalExample : String :=
  "# Global sift configuration (~/.sift.toml)\n" ++
  "#\n" ++
  "# Keywords listed here are recognized in every directory unless a project\n" ++
  "# .sift.toml sets `root = true`. Project keywords are merged in front of these.\n" ++
  "\n" ++
  "[query]\n" ++
  "keywords = [\"tag\"]\n"

def localTemplate : String := commentedOut localExample

def globalTemplate : String := commentedOut globalExample

end FacetQuery
