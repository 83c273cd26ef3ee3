/-!
# Words of the q language

Built-in functions cannot name a table, since the table would hide the function.  A column cannot
take such a name either, nor a keyword of a query, nor `i`, the virtual column of row numbers.
-/

namespace KdbSchema

/-- Built-in functions and verbs, the aggregates among them. -/
def verbs : List String :=
  ["abs", "acos", "aj", "aj0", "ajf", "ajf0", "all", "and", "any", "asc", "asin", "asof", "atan",
   "attr", "avg", "avgs", "bin", "binr", "ceiling", "cols", "cor", "cos", "count", "cov", "cross",
   "csv", "cut", "deltas", "desc", "dev", "differ", "distinct", "div", "dsave", "each", "ej",
   "ema", "enlist", "eval", "except", "exit", "exp", "fby", "fills", "first", "fkeys", "flip",
   "floor", "get", "getenv", "group", "gtime", "hclose", "hcount", "hdel", "hopen", "hsym",
   "iasc", "idesc", "ij", "ijf", "in", "insert", "inter", "inv", "key", "keys", "last", "like",
   "lj", "ljf", "load", "log", "lower", "lsq", "ltime", "ltrim", "mavg", "max", "maxs", "mcount",
   "md5", "mdev", "med", "meta", "min", "mins", "mmax", "mmin", "mmu", "mod", "msum", "neg",
   "next", "not", "null", "or", "over", "parse", "peach", "pj", "prd", "prds", "prev", "prior",
   "rand", "rank", "ratios", "raze", "read0", "read1", "reciprocal", "reval", "reverse", "rload",
   "rotate", "rsave", "rtrim", "save", "scan", "scov", "sdev", "set", "setenv", "show", "signum",
   "sin", "sqrt", "ss", "ssr", "string", "sublist", "sum", "sums", "sv", "svar", "system",
   "tables", "tan", "til", "trim", "type", "uj", "ujf", "ungroup", "union", "upper", "upsert",
   "value", "var", "view", "views", "vs", "wavg", "within", "wj", "wj1", "wsum", "ww", "xasc",
   "xbar", "xcol", "xcols", "xdesc", "xexp", "xgroup", "xkey", "xlog", "xprev", "xrank"]

def keywords : List String :=
  ["by", "delete", "do", "exec", "from", "if", "select", "update", "where", "while"]

def tableWords : List String := verbs

def columnWords : List String := verbs ++ keywords ++ ["i"]

end KdbSchema
