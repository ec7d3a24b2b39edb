import Bindery.Typst.Language

namespace Bindery.Packages

open Typst

/-- A language: its name and its other labels. -/
structure Language where
  name : String
  aliases : List String
  deriving Repr

/-- The known languages. No two of them share a label. -/
def languages : List Language :=
  [⟨"abap", []⟩, ⟨"abnf", []⟩, ⟨"actionscript", ["as"]⟩, ⟨"actionscript3", ["as3"]⟩,
   ⟨"ada", ["ada95", "ada2005"]⟩, ⟨"adl", []⟩, ⟨"agda", []⟩, ⟨"aheui", []⟩, ⟨"alloy", []⟩,
   ⟨"ambienttalk", ["ambienttalk/2", "at"]⟩, ⟨"amdgpu", []⟩, ⟨"ampl", []⟩,
   ⟨"androidbp", ["bp", "soong"]⟩, ⟨"ansys", ["apdl"]⟩, ⟨"antlr", []⟩,
   ⟨"antlr-actionscript", ["antlr-as"]⟩, ⟨"antlr-cpp", []⟩, ⟨"antlr-csharp", ["antlr-c#"]⟩,
   ⟨"antlr-java", []⟩, ⟨"antlr-objc", []⟩, ⟨"antlr-perl", []⟩, ⟨"antlr-python", []⟩,
   ⟨"antlr-ruby", ["antlr-rb"]⟩, ⟨"apacheconf", ["aconf", "apache"]⟩, ⟨"apl", []⟩,
   ⟨"applescript", []⟩, ⟨"arduino", []⟩, ⟨"arrow", []⟩, ⟨"arturo", ["art"]⟩, ⟨"asc", ["pem"]⟩,
   ⟨"asn1", []⟩, ⟨"aspectj", []⟩, ⟨"aspx-cs", []⟩, ⟨"aspx-vb", []⟩, ⟨"asymptote", ["asy"]⟩,
   ⟨"augeas", []⟩, ⟨"autohotkey", ["ahk"]⟩, ⟨"autoit", []⟩, ⟨"awk", ["gawk", "mawk", "nawk"]⟩,
   ⟨"bare", []⟩, ⟨"basemake", []⟩, ⟨"bash", ["sh", "ksh", "zsh", "shell", "openrc"]⟩,
   ⟨"batch", ["bat", "dosbatch", "winbatch"]⟩, ⟨"bbcbasic", []⟩, ⟨"bbcode", []⟩, ⟨"bc", []⟩,
   ⟨"bdd", []⟩, ⟨"befunge", []⟩, ⟨"berry", ["be"]⟩, ⟨"bibtex", ["bib"]⟩, ⟨"bitbake", []⟩,
   ⟨"blitzbasic", ["b3d", "bplus"]⟩, ⟨"blitzmax", ["bmax"]⟩, ⟨"blueprint", []⟩, ⟨"bnf", []⟩,
   ⟨"boa", []⟩, ⟨"boo", []⟩, ⟨"boogie", []⟩, ⟨"bqn", []⟩, ⟨"brainfuck", ["bf"]⟩,
   ⟨"bst", ["bst-pybtex"]⟩, ⟨"bugs", ["winbugs", "openbugs"]⟩, ⟨"c", []⟩, ⟨"c-objdump", []⟩,
   ⟨"ca65", []⟩, ⟨"caddyfile", ["caddy"]⟩, ⟨"cadl", []⟩, ⟨"camkes", ["idl4"]⟩, ⟨"capdl", []⟩,
   ⟨"capnp", []⟩, ⟨"carbon", []⟩, ⟨"cbmbas", []⟩, ⟨"cddl", []⟩, ⟨"cel", []⟩, ⟨"ceylon", []⟩,
   ⟨"cfc", []⟩, ⟨"cfengine3", ["cf3"]⟩, ⟨"cfm", []⟩, ⟨"cfs", []⟩, ⟨"chaiscript", ["chai"]⟩,
   ⟨"chapel", ["chpl"]⟩, ⟨"charmci", []⟩, ⟨"cheetah", ["spitfire"]⟩, ⟨"cirru", []⟩, ⟨"clay", []⟩,
   ⟨"clean", []⟩, ⟨"clojure", ["clj"]⟩, ⟨"clojurescript", ["cljs"]⟩, ⟨"cmake", []⟩, ⟨"cobol", []⟩,
   ⟨"cobolfree", []⟩, ⟨"codeql", ["ql"]⟩, ⟨"coffeescript", ["coffee-script", "coffee"]⟩,
   ⟨"comal", ["comal80"]⟩, ⟨"common-lisp", ["cl", "lisp"]⟩, ⟨"componentpascal", ["cp"]⟩,
   ⟨"console", ["shell-session"]⟩, ⟨"coq", ["rocq", "rocq-prover"]⟩, ⟨"cplint", []⟩,
   ⟨"cpp", ["c++"]⟩, ⟨"cpp-objdump", ["c++-objdumb", "cxx-objdump"]⟩, ⟨"cpsa", []⟩,
   ⟨"cr", ["crystal"]⟩, ⟨"crmsh", ["pcmk"]⟩, ⟨"croc", []⟩, ⟨"cryptol", ["cry"]⟩,
   ⟨"csharp", ["c#", "cs"]⟩, ⟨"csound", ["csound-orc"]⟩, ⟨"csound-document", ["csound-csd"]⟩,
   ⟨"csound-score", ["csound-sco"]⟩, ⟨"css", []⟩, ⟨"css+django", ["css+jinja"]⟩,
   ⟨"css+genshitext", ["css+genshi"]⟩, ⟨"css+lasso", []⟩, ⟨"css+mako", []⟩, ⟨"css+mozpreproc", []⟩,
   ⟨"css+myghty", []⟩, ⟨"css+php", []⟩, ⟨"css+ruby", ["css+erb"]⟩, ⟨"css+smarty", []⟩,
   ⟨"css+ul4", []⟩, ⟨"cuda", ["cu"]⟩, ⟨"cypher", []⟩, ⟨"cython", ["pyx", "pyrex"]⟩, ⟨"d", []⟩,
   ⟨"d-objdump", []⟩, ⟨"dart", []⟩, ⟨"dasm16", []⟩, ⟨"dax", []⟩, ⟨"debcontrol", ["control"]⟩,
   ⟨"debian.sources", []⟩, ⟨"debsources", ["sourceslist", "sources.list"]⟩,
   ⟨"delphi", ["pas", "pascal", "objectpascal"]⟩, ⟨"desktop", []⟩, ⟨"devicetree", ["dts"]⟩,
   ⟨"dg", []⟩, ⟨"diff", ["udiff"]⟩, ⟨"django", ["jinja"]⟩, ⟨"docker", ["dockerfile"]⟩,
   ⟨"doscon", []⟩, ⟨"dpatch", []⟩, ⟨"dtd", []⟩, ⟨"duel", ["jbst", "jsonml+bst"]⟩, ⟨"dylan", []⟩,
   ⟨"dylan-console", ["dylan-repl"]⟩, ⟨"dylan-lid", ["lid"]⟩, ⟨"earl-grey", ["earlgrey", "eg"]⟩,
   ⟨"easytrieve", []⟩, ⟨"ebnf", []⟩, ⟨"ec", []⟩, ⟨"ecl", []⟩, ⟨"eiffel", []⟩,
   ⟨"elixir", ["ex", "exs"]⟩, ⟨"elm", []⟩, ⟨"elpi", []⟩, ⟨"emacs-lisp", ["elisp", "emacs"]⟩,
   ⟨"email", ["eml"]⟩, ⟨"erb", []⟩, ⟨"erl", []⟩, ⟨"erlang", []⟩, ⟨"evoque", []⟩, ⟨"execline", []⟩,
   ⟨"extempore", []⟩, ⟨"ezhil", []⟩, ⟨"factor", []⟩, ⟨"fan", []⟩, ⟨"fancy", ["fy"]⟩,
   ⟨"felix", ["flx"]⟩, ⟨"fennel", ["fnl"]⟩, ⟨"fift", ["fif"]⟩, ⟨"fish", ["fishshell"]⟩,
   ⟨"flatline", []⟩, ⟨"floscript", ["flo"]⟩, ⟨"forth", []⟩, ⟨"fortran", ["f90"]⟩,
   ⟨"fortranfixed", []⟩, ⟨"foxpro", ["vfp", "clipper", "xbase"]⟩, ⟨"freefem", []⟩,
   ⟨"fsharp", ["f#"]⟩, ⟨"fstar", []⟩, ⟨"func", ["fc"]⟩, ⟨"futhark", []⟩, ⟨"gap", []⟩,
   ⟨"gap-console", ["gap-repl"]⟩, ⟨"gas", ["asm"]⟩, ⟨"gcode", []⟩, ⟨"gdscript", ["gd"]⟩,
   ⟨"genshi", ["kid", "xml+genshi", "xml+kid"]⟩, ⟨"genshitext", []⟩, ⟨"gherkin", ["cucumber"]⟩,
   ⟨"gleam", []⟩, ⟨"glsl", []⟩, ⟨"gnuplot", []⟩, ⟨"go", ["golang"]⟩, ⟨"golo", []⟩,
   ⟨"gooddata-cl", []⟩, ⟨"googlesql", ["zetasql"]⟩, ⟨"gosu", []⟩, ⟨"graphql", []⟩,
   ⟨"graphviz", ["dot"]⟩, ⟨"groff", ["nroff", "man"]⟩, ⟨"groovy", []⟩, ⟨"gsql", []⟩, ⟨"gst", []⟩,
   ⟨"haml", []⟩, ⟨"handlebars", []⟩, ⟨"hare", []⟩, ⟨"haskell", ["hs"]⟩, ⟨"haxe", ["hxsl", "hx"]⟩,
   ⟨"haxeml", ["hxml"]⟩, ⟨"hexdump", []⟩, ⟨"hlsl", []⟩, ⟨"hsail", ["hsa"]⟩, ⟨"hspec", []⟩,
   ⟨"html", []⟩, ⟨"html+cheetah", ["html+spitfire", "htmlcheetah"]⟩,
   ⟨"html+django", ["html+jinja", "htmldjango"]⟩, ⟨"html+evoque", []⟩,
   ⟨"html+genshi", ["html+kid"]⟩, ⟨"html+handlebars", []⟩, ⟨"html+lasso", []⟩, ⟨"html+mako", []⟩,
   ⟨"html+myghty", []⟩, ⟨"html+ng2", []⟩, ⟨"html+php", []⟩, ⟨"html+smarty", []⟩, ⟨"html+twig", []⟩,
   ⟨"html+ul4", []⟩, ⟨"html+velocity", []⟩, ⟨"http", []⟩, ⟨"hybris", []⟩, ⟨"hylang", ["hy"]⟩,
   ⟨"i6t", []⟩, ⟨"icon", []⟩, ⟨"idl", []⟩, ⟨"idris", ["idr"]⟩, ⟨"iex", []⟩, ⟨"igor", ["igorpro"]⟩,
   ⟨"inform6", ["i6"]⟩, ⟨"inform7", ["i7"]⟩, ⟨"ini", ["cfg", "dosini"]⟩, ⟨"io", []⟩,
   ⟨"ioke", ["ik"]⟩, ⟨"irc", []⟩, ⟨"isabelle", []⟩, ⟨"j", []⟩, ⟨"jags", []⟩, ⟨"janet", []⟩,
   ⟨"jasmin", ["jasminxt"]⟩, ⟨"java", []⟩, ⟨"javascript", ["js"]⟩,
   ⟨"javascript+cheetah", ["js+cheetah", "javascript+spitfire", "js+spitfire"]⟩,
   ⟨"javascript+django", ["js+django", "javascript+jinja", "js+jinja"]⟩,
   ⟨"javascript+lasso", ["js+lasso"]⟩, ⟨"javascript+mako", ["js+mako"]⟩,
   ⟨"javascript+mozpreproc", []⟩, ⟨"javascript+myghty", ["js+myghty"]⟩,
   ⟨"javascript+php", ["js+php"]⟩, ⟨"javascript+ruby", ["js+ruby", "javascript+erb", "js+erb"]⟩,
   ⟨"javascript+smarty", ["js+smarty"]⟩, ⟨"jcl", []⟩, ⟨"jlcon", ["julia-repl"]⟩,
   ⟨"jmespath", ["jp"]⟩,
   ⟨"js+genshitext", ["js+genshi", "javascript+genshitext", "javascript+genshi"]⟩, ⟨"js+ul4", []⟩,
   ⟨"jsgf", []⟩, ⟨"jslt", []⟩, ⟨"json", ["json-object"]⟩, ⟨"json5", []⟩, ⟨"jsonld", ["json-ld"]⟩,
   ⟨"jsonnet", []⟩, ⟨"jsp", []⟩, ⟨"jsx", ["react"]⟩, ⟨"julia", ["jl"]⟩, ⟨"juttle", []⟩, ⟨"k", []⟩,
   ⟨"kal", []⟩, ⟨"kconfig", ["menuconfig", "linux-config", "kernel-config"]⟩, ⟨"kmsg", ["dmesg"]⟩,
   ⟨"koka", []⟩, ⟨"kotlin", []⟩, ⟨"kql", ["kusto"]⟩, ⟨"kuin", []⟩, ⟨"lasso", ["lassoscript"]⟩,
   ⟨"ldapconf", ["ldaprc"]⟩, ⟨"ldif", []⟩, ⟨"lean", ["lean3"]⟩, ⟨"lean4", []⟩, ⟨"less", []⟩,
   ⟨"lighttpd", ["lighty"]⟩, ⟨"lilypond", []⟩, ⟨"limbo", []⟩, ⟨"liquid", []⟩,
   ⟨"literate-agda", ["lagda"]⟩, ⟨"literate-cryptol", ["lcryptol", "lcry"]⟩,
   ⟨"literate-haskell", ["lhaskell", "lhs"]⟩, ⟨"literate-idris", ["lidris", "lidr"]⟩,
   ⟨"livescript", ["live-script"]⟩, ⟨"llvm", []⟩, ⟨"llvm-mir", []⟩, ⟨"llvm-mir-body", []⟩,
   ⟨"logos", []⟩, ⟨"logtalk", []⟩, ⟨"lsl", []⟩, ⟨"lua", []⟩, ⟨"luau", []⟩, ⟨"macaulay2", []⟩,
   ⟨"make", ["makefile", "mf", "bsdmake"]⟩, ⟨"mako", []⟩, ⟨"maple", []⟩, ⟨"maql", []⟩,
   ⟨"markdown", ["md"]⟩, ⟨"mask", []⟩, ⟨"mason", []⟩,
   ⟨"mathematica", ["mma", "nb", "wl", "wolfram"]⟩, ⟨"matlab", []⟩, ⟨"matlabsession", []⟩,
   ⟨"maxima", ["macsyma"]⟩, ⟨"mcfunction", ["mcf"]⟩, ⟨"mcschema", []⟩, ⟨"meson", ["meson.build"]⟩,
   ⟨"mime", []⟩, ⟨"minid", []⟩, ⟨"miniscript", ["ms"]⟩, ⟨"mips", []⟩, ⟨"modelica", []⟩,
   ⟨"modula2", ["m2"]⟩, ⟨"mojo", ["🔥"]⟩, ⟨"monkey", []⟩, ⟨"monte", []⟩, ⟨"moocode", ["moo"]⟩,
   ⟨"moonscript", ["moon"]⟩, ⟨"mosel", []⟩, ⟨"mozhashpreproc", []⟩, ⟨"mozpercentpreproc", []⟩,
   ⟨"mql", ["mq4", "mq5", "mql4", "mql5"]⟩, ⟨"mscgen", ["msc"]⟩, ⟨"mupad", []⟩, ⟨"mxml", []⟩,
   ⟨"myghty", []⟩, ⟨"mysql", []⟩, ⟨"nasm", []⟩, ⟨"ncl", []⟩, ⟨"nemerle", []⟩, ⟨"nesc", []⟩,
   ⟨"nestedtext", ["nt"]⟩, ⟨"newlisp", []⟩, ⟨"newspeak", []⟩, ⟨"ng2", []⟩, ⟨"nginx", []⟩,
   ⟨"nimrod", ["nim"]⟩, ⟨"nit", []⟩, ⟨"nixos", ["nix"]⟩, ⟨"nodejsrepl", []⟩, ⟨"notmuch", []⟩,
   ⟨"nsis", ["nsi", "nsh"]⟩, ⟨"numba_ir", ["numbair"]⟩, ⟨"numpy", []⟩, ⟨"nusmv", []⟩,
   ⟨"objdump", []⟩, ⟨"objdump-nasm", []⟩, ⟨"objective-c", ["objectivec", "obj-c", "objc"]⟩,
   ⟨"objective-c++", ["objectivec++", "obj-c++", "objc++"]⟩,
   ⟨"objective-j", ["objectivej", "obj-j", "objj"]⟩, ⟨"ocaml", []⟩, ⟨"octave", []⟩, ⟨"odin", []⟩,
   ⟨"omg-idl", []⟩, ⟨"ooc", []⟩, ⟨"opa", []⟩, ⟨"openedge", ["abl", "progress"]⟩, ⟨"openscad", []⟩,
   ⟨"org", ["orgmode", "org-mode"]⟩, ⟨"output", []⟩, ⟨"pacmanconf", []⟩, ⟨"pan", []⟩,
   ⟨"parasail", []⟩, ⟨"pawn", []⟩, ⟨"pddl", []⟩, ⟨"peg", []⟩, ⟨"perl", ["pl"]⟩,
   ⟨"perl6", ["pl6", "raku"]⟩, ⟨"phix", []⟩, ⟨"php", ["php3", "php4", "php5"]⟩, ⟨"pig", []⟩,
   ⟨"pike", []⟩, ⟨"pkgconfig", []⟩, ⟨"plpgsql", []⟩, ⟨"pointless", []⟩, ⟨"pony", []⟩,
   ⟨"portugol", []⟩, ⟨"postgres-explain", []⟩, ⟨"postgresql", ["postgres"]⟩,
   ⟨"postscript", ["postscr"]⟩, ⟨"pot", ["po"]⟩, ⟨"pov", []⟩,
   ⟨"powershell", ["pwsh", "posh", "ps1", "psm1"]⟩, ⟨"praat", []⟩, ⟨"procfile", []⟩, ⟨"prolog", []⟩,
   ⟨"promela", []⟩, ⟨"promql", []⟩, ⟨"properties", ["jproperties"]⟩, ⟨"protobuf", ["proto"]⟩,
   ⟨"prql", []⟩, ⟨"psql", ["postgresql-console", "postgres-console"]⟩, ⟨"psysh", []⟩, ⟨"ptx", []⟩,
   ⟨"pug", ["jade"]⟩, ⟨"puppet", []⟩, ⟨"purescript", ["purs"]⟩, ⟨"pwsh-session", ["ps1con"]⟩,
   ⟨"py+ul4", []⟩, ⟨"py2tb", []⟩, ⟨"pycon", ["python-console"]⟩, ⟨"pypylog", ["pypy"]⟩,
   ⟨"pytb", ["py3tb"]⟩, ⟨"python", ["py", "sage", "python3", "py3", "bazel", "starlark", "pyi"]⟩,
   ⟨"python2", ["py2"]⟩, ⟨"q", []⟩, ⟨"qbasic", ["basic"]⟩,
   ⟨"qlik", ["qlikview", "qliksense", "qlikscript"]⟩, ⟨"qml", ["qbs"]⟩, ⟨"qvto", ["qvt"]⟩,
   ⟨"racket", ["rkt"]⟩, ⟨"ragel", []⟩, ⟨"ragel-c", []⟩, ⟨"ragel-cpp", []⟩, ⟨"ragel-d", []⟩,
   ⟨"ragel-em", []⟩, ⟨"ragel-java", []⟩, ⟨"ragel-objc", []⟩, ⟨"ragel-ruby", ["ragel-rb"]⟩,
   ⟨"rbcon", ["irb"]⟩, ⟨"rconsole", ["rout"]⟩, ⟨"rd", []⟩, ⟨"reasonml", ["reason"]⟩, ⟨"rebol", []⟩,
   ⟨"red", ["red/system"]⟩, ⟨"redcode", []⟩, ⟨"registry", []⟩, ⟨"rego", []⟩, ⟨"rell", []⟩,
   ⟨"resourcebundle", ["resource"]⟩, ⟨"restructuredtext", ["rst", "rest"]⟩, ⟨"rexx", ["arexx"]⟩,
   ⟨"rhtml", ["html+erb", "html+ruby"]⟩, ⟨"ride", []⟩, ⟨"rita", []⟩, ⟨"rng-compact", ["rnc"]⟩,
   ⟨"roboconf-graph", []⟩, ⟨"roboconf-instances", []⟩, ⟨"robotframework", []⟩, ⟨"rql", []⟩,
   ⟨"rsl", []⟩, ⟨"ruby", ["rb", "duby"]⟩, ⟨"rust", ["rs"]⟩, ⟨"sarl", []⟩, ⟨"sas", []⟩, ⟨"sass", []⟩,
   ⟨"savi", []⟩, ⟨"scala", []⟩, ⟨"scaml", []⟩, ⟨"scdoc", ["scd"]⟩, ⟨"scheme", ["scm"]⟩,
   ⟨"scilab", []⟩, ⟨"scss", []⟩, ⟨"sed", ["gsed", "ssed"]⟩, ⟨"sgf", []⟩, ⟨"shen", []⟩,
   ⟨"shexc", ["shex"]⟩, ⟨"sieve", []⟩, ⟨"silver", []⟩, ⟨"singularity", []⟩, ⟨"slash", []⟩,
   ⟨"slim", []⟩, ⟨"slurm", ["sbatch"]⟩, ⟨"smali", []⟩, ⟨"smalltalk", ["squeak", "st"]⟩,
   ⟨"smarty", []⟩, ⟨"smithy", []⟩, ⟨"sml", []⟩, ⟨"snbt", []⟩, ⟨"snobol", []⟩, ⟨"snowball", []⟩,
   ⟨"solidity", []⟩, ⟨"sophia", []⟩, ⟨"sp", []⟩, ⟨"sparql", []⟩, ⟨"spec", []⟩,
   ⟨"spice", ["spicelang"]⟩, ⟨"splus", ["s", "r"]⟩, ⟨"sql", []⟩, ⟨"sql+jinja", []⟩, ⟨"sqlite3", []⟩,
   ⟨"squidconf", ["squid.conf", "squid"]⟩, ⟨"srcinfo", []⟩, ⟨"ssp", []⟩, ⟨"stan", []⟩,
   ⟨"stata", ["do"]⟩, ⟨"supercollider", ["sc"]⟩, ⟨"swift", []⟩, ⟨"swig", []⟩, ⟨"systemd", []⟩,
   ⟨"systemverilog", ["sv"]⟩, ⟨"tablegen", ["td"]⟩, ⟨"tact", []⟩, ⟨"tads3", []⟩,
   ⟨"tal", ["uxntal"]⟩, ⟨"tap", []⟩, ⟨"tasm", []⟩, ⟨"tcl", []⟩, ⟨"tcsh", ["csh"]⟩, ⟨"tcshcon", []⟩,
   ⟨"tea", []⟩, ⟨"teal", []⟩, ⟨"teratermmacro", ["teraterm", "ttl"]⟩, ⟨"termcap", []⟩,
   ⟨"terminfo", []⟩, ⟨"terraform", ["tf", "hcl"]⟩, ⟨"tex", ["latex"]⟩, ⟨"text", []⟩, ⟨"thrift", []⟩,
   ⟨"ti", ["thingsdb"]⟩, ⟨"tid", []⟩, ⟨"tlb", []⟩, ⟨"tls", []⟩, ⟨"tnt", []⟩, ⟨"todotxt", []⟩,
   ⟨"toml", []⟩, ⟨"trac-wiki", ["moin"]⟩, ⟨"trafficscript", ["rts"]⟩, ⟨"treetop", []⟩,
   ⟨"tsql", ["t-sql"]⟩, ⟨"tsx", []⟩, ⟨"turtle", []⟩, ⟨"twig", []⟩, ⟨"typescript", ["ts"]⟩,
   ⟨"typoscript", []⟩, ⟨"typoscriptcssdata", []⟩, ⟨"typoscripthtmldata", []⟩, ⟨"typst", []⟩,
   ⟨"ucode", []⟩, ⟨"ul4", []⟩, ⟨"unicon", []⟩, ⟨"unixconfig", ["linuxconfig"]⟩, ⟨"urbiscript", []⟩,
   ⟨"urlencoded", []⟩, ⟨"usd", ["usda"]⟩, ⟨"vala", ["vapi"]⟩,
   ⟨"vb.net", ["vbnet", "lobas", "oobas", "sobas", "visual-basic", "visualbasic"]⟩,
   ⟨"vbscript", []⟩, ⟨"vcl", []⟩, ⟨"vclsnippets", ["vclsnippet"]⟩, ⟨"vctreestatus", []⟩,
   ⟨"velocity", []⟩, ⟨"verifpal", []⟩, ⟨"verilog", ["v"]⟩, ⟨"vgl", []⟩, ⟨"vhdl", []⟩, ⟨"vim", []⟩,
   ⟨"visualprolog", []⟩, ⟨"visualprologgrammar", []⟩, ⟨"vue", []⟩, ⟨"vyper", []⟩, ⟨"wast", ["wat"]⟩,
   ⟨"wdiff", []⟩, ⟨"webidl", []⟩, ⟨"wgsl", []⟩, ⟨"whiley", []⟩, ⟨"wikitext", ["mediawiki"]⟩,
   ⟨"wowtoc", []⟩, ⟨"wren", []⟩, ⟨"x10", ["xten"]⟩, ⟨"xml", []⟩, ⟨"xml+cheetah", ["xml+spitfire"]⟩,
   ⟨"xml+django", ["xml+jinja"]⟩, ⟨"xml+evoque", []⟩, ⟨"xml+lasso", []⟩, ⟨"xml+mako", []⟩,
   ⟨"xml+myghty", []⟩, ⟨"xml+php", []⟩, ⟨"xml+ruby", ["xml+erb"]⟩, ⟨"xml+smarty", []⟩,
   ⟨"xml+ul4", []⟩, ⟨"xml+velocity", []⟩, ⟨"xorg.conf", []⟩, ⟨"xpp", ["x++"]⟩,
   ⟨"xquery", ["xqy", "xq", "xql", "xqm"]⟩, ⟨"xslt", []⟩, ⟨"xtend", []⟩, ⟨"xul+mozpreproc", []⟩,
   ⟨"yaml", ["yml"]⟩, ⟨"yaml+jinja", ["salt", "sls"]⟩, ⟨"yang", []⟩, ⟨"yara", ["yar"]⟩,
   ⟨"zeek", ["bro"]⟩, ⟨"zephir", []⟩, ⟨"zig", []⟩, ⟨"zone", []⟩]

/-- All labels of a language, its name first. -/
def Language.labels (language : Language) : List String :=
  language.name :: language.aliases

/-- The lexers that are installed. -/
instance lexers : Lexers where
  names? label :=
    (languages.find? (·.labels.any (·.toList == label))).map (·.labels.map String.toList)

end Bindery.Packages
