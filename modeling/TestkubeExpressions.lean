import TestkubeExpressions.Basic.GoInt64
import TestkubeExpressions.Basic.GoString
import TestkubeExpressions.Value.Static
import TestkubeExpressions.Expression.Basic
import TestkubeExpressions.Stdlib.Functions
import TestkubeExpressions.Stdlib.ReturnType
import TestkubeExpressions.Stdlib.JoinSplit
import TestkubeExpressions.Stdlib.Chunk
import TestkubeExpressions.Stdlib.At
import TestkubeExpressions.Stdlib.Iteration
import TestkubeExpressions.Stdlib.Safety
import TestkubeExpressions.Engine.Resolve
import TestkubeExpressions.Engine.Cast
import TestkubeExpressions.Engine.Typing
